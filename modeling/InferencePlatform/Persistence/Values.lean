/-
The values that are written as JSON.

A `PyValue` is what the encoder of the persistence layer can write: a JSON value, a tuple, an enumeration member, an id
or a time. A dict is a list of pairs; a lookup takes the first pair of its key. `Texts` holds the texts of ids and times
with the readers that invert them. `normalise` is a value after `loads(dumps(value))`: members, ids and times have
become texts, tuples lists, and the keys of a dict are sorted. A lookup does not see the order (`get?_normalise`).

A reader that meets a value of another type refuses it, where Python would keep the value in the field.
-/
import Mathlib.Data.String.Basic
import InferencePlatform.Schemas
import InferencePlatform.Core.Dict

namespace InferencePlatform.Persistence

inductive PyValue
  | none
  | bool (b : Bool)
  | int (i : ℤ)
  | float (q : ℚ)
  | str (s : String)
  /-- a member of a `StrEnum`, which is a `str` as well -/
  | enum (type : String) (value : String)
  | list (items : List PyValue)
  | tuple (items : List PyValue)
  | dict (fields : List (String × PyValue))
  | uuid (u : UUID)
  | datetime (t : Time)

abbrev PyDict := List (String × PyValue)

/-- the texts of ids and times -/
structure Texts where
  /-- `str(uuid)` -/
  uuidText : UUID → String
  /-- `UUID(text)`, `none` where it raises -/
  parseUuid : String → Option UUID
  isoformat : Time → String
  /-- `none` where it raises -/
  fromisoformat : String → Option Time
  /-- `str(value)` -/
  valueText : PyValue → String
  parseUuid_uuidText : ∀ u, parseUuid (uuidText u) = some u
  uuidText_ne : ∀ u, uuidText u ≠ ""
  fromisoformat_isoformat : ∀ t, fromisoformat (isoformat t) = some t

attribute [simp] Texts.parseUuid_uuidText Texts.uuidText_ne Texts.fromisoformat_isoformat

/-! ## JSON -/

/-- `sort_keys=True` -/
def sortKeys (fields : PyDict) : PyDict := fields.insertionSort fun p q => p.1 ≤ q.1

mutual

/-- `loads(dumps(value))` -/
def PyValue.normalise (texts : Texts) : PyValue → PyValue
  | .uuid u => .str (texts.uuidText u)
  | .datetime t => .str (texts.isoformat t)
  | .enum _ value => .str value
  | .list items => .list (normaliseItems texts items)
  | .tuple items => .list (normaliseItems texts items)
  | .dict fields => .dict (sortKeys (normaliseFields texts fields))
  | .none => .none
  | .bool b => .bool b
  | .int i => .int i
  | .float q => .float q
  | .str s => .str s

def normaliseItems (texts : Texts) : List PyValue → List PyValue
  | [] => []
  | v :: rest => v.normalise texts :: normaliseItems texts rest

def normaliseFields (texts : Texts) : PyDict → PyDict
  | [] => []
  | (key, v) :: rest => (key, v.normalise texts) :: normaliseFields texts rest

end

/-- `loads(dumps(data))` of a dict -/
def PyDict.normalise (texts : Texts) (data : PyDict) : PyDict := sortKeys (normaliseFields texts data)

variable {texts : Texts}

@[simp] theorem normalise_dict (fields : PyDict) :
    (PyValue.dict fields).normalise texts = .dict (PyDict.normalise texts fields) := by
  rw [PyValue.normalise, PyDict.normalise]

@[simp] theorem normaliseItems_eq (items : List PyValue) :
    normaliseItems texts items = items.map (PyValue.normalise texts) := by
  induction items with
  | nil => rw [normaliseItems, List.map_nil]
  | cons v rest ih => rw [normaliseItems, ih, List.map_cons]

/-! ## Reading -/

namespace PyDict

def get? (data : PyDict) (key : String) : Option PyValue := Core.Dict.getItems key data

/-- `data.get(key)` -/
def get (data : PyDict) (key : String) : PyValue := (data.get? key).getD .none

/-- `data[key]` -/
def item (data : PyDict) (key : String) : Except String PyValue :=
  match data.get? key with
  | some v => .ok v
  | none => .error s!"KeyError: {key}"

@[simp] theorem get?_nil (key : String) : get? [] key = none := rfl

@[simp] theorem get?_cons (key key' : String) (v : PyValue) (rest : PyDict) :
    get? ((key, v) :: rest) key' = if key = key' then some v else get? rest key' := rfl

theorem get?_sortKeys (fields : PyDict) (key : String) : get? (sortKeys fields) key = get? fields key :=
  Core.Dict.getItems_insertionSort (· ≤ ·) le_refl key fields

theorem get?_normaliseFields (fields : PyDict) (key : String) :
    get? (normaliseFields texts fields) key = (get? fields key).map (PyValue.normalise texts) := by
  induction fields with
  | nil => rw [normaliseFields, get?_nil, Option.map_none]
  | cons p rest ih =>
    rw [normaliseFields, get?_cons, get?_cons, ih]
    split_ifs <;> rfl

@[simp] theorem get?_normalise (data : PyDict) (key : String) :
    get? (data.normalise texts) key = (get? data key).map (PyValue.normalise texts) := by
  rw [normalise, get?_sortKeys, get?_normaliseFields]

end PyDict

namespace PyValue

/-- the truth value of an object -/
def truthy : PyValue → Bool
  | .none => false
  | .bool b => b
  | .int i => i ≠ 0
  | .float q => q ≠ 0
  | .str s | .enum _ s => s ≠ ""
  | .list items | .tuple items => !items.isEmpty
  | .dict fields => !fields.isEmpty
  | .uuid _ | .datetime _ => true

def asStr : PyValue → Except String String
  | .str s => .ok s
  | _ => .error "not a str"

def asOptStr : PyValue → Except String (Option String)
  | .none => .ok Option.none
  | .str s => .ok (some s)
  | _ => .error "not a str or None"

def asDict : PyValue → Except String PyDict
  | .dict fields => .ok fields
  | _ => .error "not a dict"

def asList : PyValue → Except String (List PyValue)
  | .list items | .tuple items => .ok items
  | _ => .error "not a list"

/-- `UUID(value)` -/
def asUuid (texts : Texts) : PyValue → Except String UUID
  | .str s =>
    match texts.parseUuid s with
    | some u => .ok u
    | Option.none => .error "badly formed hexadecimal UUID string"
  | _ => .error "not a str"

/-- `datetime.fromisoformat(value)` -/
def asTime (texts : Texts) : PyValue → Except String Time
  | .str s =>
    match texts.fromisoformat s with
    | some t => .ok t
    | Option.none => .error "Invalid isoformat string"
  | _ => .error "fromisoformat: argument must be str"

/-- an optional text -/
def ofOptStr : Option String → PyValue
  | Option.none => .none
  | some s => .str s

@[simp] theorem normalise_str (s : String) : (str s).normalise texts = .str s := by rw [normalise]

@[simp] theorem normalise_list (items : List PyValue) :
    (list items).normalise texts = .list (items.map (normalise texts)) := by rw [normalise, normaliseItems_eq]

@[simp] theorem normalise_ofOptStr (s : Option String) : (ofOptStr s).normalise texts = ofOptStr s := by
  cases s <;> simp [ofOptStr, normalise]

@[simp] theorem asOptStr_ofOptStr (s : Option String) : (ofOptStr s).asOptStr = .ok s := by
  cases s <;> rfl

@[simp] theorem asUuid_uuidText (u : UUID) : (str (texts.uuidText u)).asUuid texts = .ok u := by
  simp [asUuid]

@[simp] theorem asTime_isoformat (t : Time) : (str (texts.isoformat t)).asTime texts = .ok t := by
  simp [asTime]

end PyValue

/-! ## Texts -/

/-- the digits of a number, but for one number with a text of its own -/
def numeral (own : ℕ × String) (n : ℕ) : String := if n = own.1 then own.2 else String.ofList (Nat.toDigits 10 n)

def parseNumeral (own : ℕ × String) (text : String) : Option ℕ :=
  if text = own.2 then some own.1
  else if text.toList ≠ [] ∧ text.toList.all Char.isDigit then some (Nat.ofDigitChars 10 text.toList 0) else none

theorem parseNumeral_numeral {own : ℕ × String} (hown : own.2.toList.all Char.isDigit = false) (n : ℕ) :
    parseNumeral own (numeral own n) = some n := by
  have hdigits : (Nat.toDigits 10 n).all Char.isDigit = true :=
    List.all_eq_true.2 fun c hc => Nat.isDigit_of_mem_toDigits (by decide) (by decide) hc
  unfold numeral
  by_cases hn : n = own.1
  · rw [if_pos hn, parseNumeral, if_pos rfl, hn]
  · have hne : String.ofList (Nat.toDigits 10 n) ≠ own.2 := by
      intro heq
      rw [← heq, String.toList_ofList, hdigits] at hown
      cases hown
    rw [if_neg hn, parseNumeral, if_neg hne, String.toList_ofList, if_pos ⟨Nat.toDigits_ne_nil, hdigits⟩,
      Nat.ofDigitChars_ten_toDigits]

theorem numeral_ne {own : ℕ × String} (hown : own.2 ≠ "") (n : ℕ) : numeral own n ≠ "" := by
  unfold numeral
  split_ifs
  · exact hown
  · intro h
    have hnil := congrArg String.toList h
    rw [String.toList_ofList] at hnil
    exact Nat.toDigits_ne_nil hnil

/-- texts with the laws, and those of the id 1 and the time 0 as they are -/
def sampleTexts : Texts where
  uuidText := numeral (1, "00000000-0000-0000-0000-000000000001")
  parseUuid := parseNumeral (1, "00000000-0000-0000-0000-000000000001")
  isoformat := numeral (0, "1970-01-01T00:00:00+00:00")
  fromisoformat := parseNumeral (0, "1970-01-01T00:00:00+00:00")
  valueText _ := ""
  parseUuid_uuidText := parseNumeral_numeral rfl
  uuidText_ne := numeral_ne (by decide)
  fromisoformat_isoformat := parseNumeral_numeral rfl

end InferencePlatform.Persistence
