/-
JSON: values, the compact text of a value, and a reader of compact texts.

`dumps` writes ASCII only: a character of a string that is not printable ASCII is escaped, one outside the basic plane
as a surrogate pair. Numbers are integers. A text is a `List Char` inside; `dumps` and `loads` are the functions on
strings.

- `loads_dumps`: the reader gives back every value from its text;
- `printable_of_mem_dumps`: a text holds printable ASCII characters only, so neither a line break nor any other control
  character, whatever the strings in the value hold.
-/
import Mathlib.Tactic

namespace InferencePlatform.Core

inductive Json
  | null
  | bool (b : Bool)
  | num (i : ℤ)
  | str (s : String)
  | arr (items : List Json)
  | obj (fields : List (String × Json))
  deriving Repr

namespace Json

/-! ## Writing -/

def hex4 (n : ℕ) : List Char :=
  [Nat.digitChar (n / 4096), Nat.digitChar (n / 256 % 16), Nat.digitChar (n / 16 % 16), Nat.digitChar (n % 16)]

/-- the halves of a character outside the basic plane -/
def highHalf (n : ℕ) : ℕ := 0xD800 + (n - 0x10000) / 0x400

def lowHalf (n : ℕ) : ℕ := 0xDC00 + (n - 0x10000) % 0x400

/-- one code unit -/
def unicodeEscape (n : ℕ) : List Char := '\\' :: 'u' :: hex4 n

/-- the two-character escapes -/
def shortEscapes : List (Char × Char) :=
  [('"', '"'), ('\\', '\\'), ('\n', 'n'), ('\r', 'r'), ('\t', 't'), ('\x0c', 'f'), ('\x08', 'b')]

def isPrintable (c : Char) : Bool := 32 ≤ c.toNat ∧ c.toNat ≤ 126

def escapeChar (c : Char) : List Char :=
  match shortEscapes.lookup c with
  | some e => ['\\', e]
  | none =>
    if isPrintable c then [c]
    else if c.toNat < 0x10000 then unicodeEscape c.toNat
    else unicodeEscape (highHalf c.toNat) ++ unicodeEscape (lowHalf c.toNat)

def dumpString (s : String) : List Char := '"' :: s.toList.flatMap escapeChar ++ ['"']

def dumpInt (i : ℤ) : List Char := if i < 0 then '-' :: Nat.toDigits 10 i.natAbs else Nat.toDigits 10 i.natAbs

mutual

def dump : Json → List Char
  | .null => "null".toList
  | .bool true => "true".toList
  | .bool false => "false".toList
  | .num i => dumpInt i
  | .str s => dumpString s
  | .arr items => '[' :: dumpItems items ++ [']']
  | .obj fields => '{' :: dumpFields fields ++ ['}']

def dumpItems : List Json → List Char
  | [] => []
  | [v] => dump v
  | v :: rest => dump v ++ ',' :: dumpItems rest

def dumpFields : List (String × Json) → List Char
  | [] => []
  | [(key, v)] => dumpString key ++ ':' :: dump v
  | (key, v) :: rest => dumpString key ++ ':' :: dump v ++ ',' :: dumpFields rest

end

/-- `json.dumps(value, separators=(',', ':'))` -/
def dumps (v : Json) : String := String.ofList v.dump

/-! ## Reading -/

def hexValue (c : Char) : Option ℕ :=
  if '0' ≤ c ∧ c ≤ '9' then some (c.toNat - '0'.toNat)
  else if 'a' ≤ c ∧ c ≤ 'f' then some (c.toNat - 'a'.toNat + 10)
  else if 'A' ≤ c ∧ c ≤ 'F' then some (c.toNat - 'A'.toNat + 10)
  else none

def readHex4 : List Char → Option (ℕ × List Char)
  | a :: b :: c :: d :: rest => do
    return (4096 * (← hexValue a) + 256 * (← hexValue b) + 16 * (← hexValue c) + (← hexValue d), rest)
  | _ => none

/-- the halves of a surrogate pair -/
def isHigh (n : ℕ) : Prop := 0xD800 ≤ n ∧ n < 0xDC00

def isLow (n : ℕ) : Prop := 0xDC00 ≤ n ∧ n < 0xE000

instance (n : ℕ) : Decidable (isHigh n) := inferInstanceAs (Decidable (_ ∧ _))

instance (n : ℕ) : Decidable (isLow n) := inferInstanceAs (Decidable (_ ∧ _))

def joinPair (high low : ℕ) : ℕ := 0x10000 + 0x400 * (high - 0xD800) + (low - 0xDC00)

/-- after `\u`: a character, or the first half of a surrogate pair and then the second -/
def readUnicode (l : List Char) : Option (Char × List Char) :=
  match readHex4 l with
  | none => none
  | some (n, rest) =>
    if isHigh n then
      match rest with
      | '\\' :: 'u' :: rest' =>
        match readHex4 rest' with
        | some (m, rest'') => if isLow m then some (Char.ofNat (joinPair n m), rest'') else none
        | none => none
      | _ => none
    else some (Char.ofNat n, rest)

/-- one character of a string -/
def readChar : List Char → Option (Char × List Char)
  | '\\' :: 'u' :: rest => readUnicode rest
  | '\\' :: e :: rest => ((shortEscapes.find? fun p => p.2 = e).map Prod.fst).map fun c => (c, rest)
  | c :: rest => if isPrintable c then some (c, rest) else none
  | [] => none

/-- the rest of a string, its closing quote included; the number bounds its length -/
def readString : ℕ → List Char → Option (List Char × List Char)
  | 0, _ => none
  | n + 1, l =>
    match l with
    | '"' :: rest => some ([], rest)
    | _ =>
      match readChar l with
      | none => none
      | some (c, rest) => (readString n rest).map fun p => (c :: p.1, p.2)

def readInt (l : List Char) : Option (ℤ × List Char) :=
  match l with
  | '-' :: rest =>
    if (rest.takeWhile Char.isDigit).isEmpty then none
    else some (-(Nat.ofDigitChars 10 (rest.takeWhile Char.isDigit) 0 : ℤ), rest.dropWhile Char.isDigit)
  | _ =>
    if (l.takeWhile Char.isDigit).isEmpty then none
    else some (Nat.ofDigitChars 10 (l.takeWhile Char.isDigit) 0, l.dropWhile Char.isDigit)

mutual

/-- the number bounds the length of the value's text -/
def readValue : ℕ → List Char → Option (Json × List Char)
  | 0, _ => none
  | n + 1, l =>
    match l with
    | 'n' :: 'u' :: 'l' :: 'l' :: rest => some (.null, rest)
    | 't' :: 'r' :: 'u' :: 'e' :: rest => some (.bool true, rest)
    | 'f' :: 'a' :: 'l' :: 's' :: 'e' :: rest => some (.bool false, rest)
    | '"' :: rest => (readString (rest.length + 1) rest).map fun p => (.str (String.ofList p.1), p.2)
    | '[' :: ']' :: rest => some (.arr [], rest)
    | '[' :: rest => (readItems n rest).map fun p => (.arr p.1, p.2)
    | '{' :: '}' :: rest => some (.obj [], rest)
    | '{' :: rest => (readFields n rest).map fun p => (.obj p.1, p.2)
    | _ => (readInt l).map fun p => (.num p.1, p.2)

/-- one or more items and the closing bracket -/
def readItems : ℕ → List Char → Option (List Json × List Char)
  | 0, _ => none
  | n + 1, l =>
    match readValue n l with
    | some (v, ']' :: rest) => some ([v], rest)
    | some (v, ',' :: rest) => (readItems n rest).map fun p => (v :: p.1, p.2)
    | _ => none

/-- one or more fields and the closing brace -/
def readFields : ℕ → List Char → Option (List (String × Json) × List Char)
  | 0, _ => none
  | n + 1, l =>
    match l with
    | '"' :: rest =>
      match readString (rest.length + 1) rest with
      | some (key, ':' :: rest') =>
        match readValue n rest' with
        | some (v, '}' :: rest'') => some ([(String.ofList key, v)], rest'')
        | some (v, ',' :: rest'') => (readFields n rest'').map fun p => ((String.ofList key, v) :: p.1, p.2)
        | _ => none
      | _ => none
    | _ => none

end

/-- `json.loads`, for compact texts -/
def loads (s : String) : Option Json :=
  match readValue (s.toList.length + 1) s.toList with
  | some (v, []) => some v
  | _ => none

example : (loads (dumps (.arr [.num (-12), .str "\"é😀\n", .null]))).map dumps =
    some "[-12,\"\\\"\\u00e9\\ud83d\\ude00\\n\",null]" := by decide +kernel

/-! ## Characters -/

theorem hexValue_digitChar {n : ℕ} (h : n < 16) : hexValue (Nat.digitChar n) = some n := by
  revert h
  revert n
  decide

theorem readHex4_hex4 {n : ℕ} (h : n < 0x10000) (rest : List Char) : readHex4 (hex4 n ++ rest) = some (n, rest) := by
  have h₁ := hexValue_digitChar (n := n / 4096) (by omega)
  have h₂ := hexValue_digitChar (n := n / 256 % 16) (by omega)
  have h₃ := hexValue_digitChar (n := n / 16 % 16) (by omega)
  have h₄ := hexValue_digitChar (n := n % 16) (by omega)
  have hsum : 4096 * (n / 4096) + 256 * (n / 256 % 16) + 16 * (n / 16 % 16) + n % 16 = n := by omega
  simp only [hex4, readHex4, List.cons_append, List.nil_append, h₁, h₂, h₃, h₄, Option.bind_eq_bind, Option.bind_some,
    hsum]
  rfl

theorem toNat_valid (c : Char) : c.toNat < 0xD800 ∨ 0xDFFF < c.toNat ∧ c.toNat < 0x110000 := c.valid

theorem readUnicode_one {n : ℕ} {l rest : List Char} (h : readHex4 l = some (n, rest)) (hn : ¬isHigh n) :
    readUnicode l = some (Char.ofNat n, rest) := by
  simp only [readUnicode, h, if_neg hn]

theorem readUnicode_two {n m : ℕ} {l rest rest' : List Char} (h : readHex4 l = some (n, '\\' :: 'u' :: rest))
    (hn : isHigh n) (h' : readHex4 rest = some (m, rest')) (hm : isLow m) :
    readUnicode l = some (Char.ofNat (joinPair n m), rest') := by
  simp only [readUnicode, h, if_pos hn, h', if_pos hm]

theorem readUnicode_basic {c : Char} (h : c.toNat < 0x10000) (rest : List Char) :
    readUnicode (hex4 c.toNat ++ rest) = some (c, rest) := by
  have hvalid : ¬isHigh c.toNat := by
    have hc := toNat_valid c
    unfold isHigh
    omega
  rw [readUnicode_one (readHex4_hex4 h rest) hvalid, Char.ofNat_toNat]

theorem joinPair_halves {n : ℕ} (h : 0x10000 ≤ n) (hmax : n < 0x110000) :
    isHigh (highHalf n) ∧ isLow (lowHalf n) ∧ joinPair (highHalf n) (lowHalf n) = n := by
  unfold isHigh isLow joinPair highHalf lowHalf
  omega

theorem halves_lt {n : ℕ} (h : 0x10000 ≤ n) (hmax : n < 0x110000) : highHalf n < 0x10000 ∧ lowHalf n < 0x10000 := by
  unfold highHalf lowHalf
  omega

theorem readUnicode_pair {c : Char} (h : 0x10000 ≤ c.toNat) (rest : List Char) :
    readUnicode (hex4 (highHalf c.toNat) ++ (unicodeEscape (lowHalf c.toNat) ++ rest)) = some (c, rest) := by
  have hmax : c.toNat < 0x110000 := by
    have hc := toNat_valid c
    omega
  obtain ⟨hhigh, hlow, hjoin⟩ := joinPair_halves h hmax
  obtain ⟨hhigh', hlow'⟩ := halves_lt h hmax
  rw [unicodeEscape, List.cons_append, List.cons_append,
    readUnicode_two (readHex4_hex4 hhigh' _) hhigh (readHex4_hex4 hlow' rest) hlow, hjoin, Char.ofNat_toNat]

theorem readChar_unicodeEscape (n : ℕ) (rest : List Char) :
    readChar (unicodeEscape n ++ rest) = readUnicode (hex4 n ++ rest) := by
  simp only [unicodeEscape, List.cons_append, readChar]

theorem readChar_short : ∀ p ∈ shortEscapes, ∀ rest, readChar ('\\' :: p.2 :: rest) = some (p.1, rest) := by
  intro p hp rest
  fin_cases hp <;> rfl

theorem readChar_printable {c : Char} (hbackslash : c ≠ '\\') (hc : isPrintable c = true) (rest : List Char) :
    readChar (c :: rest) = some (c, rest) := by
  unfold readChar
  split
  · next h => exact absurd (List.cons.inj h).1 hbackslash
  · next h => exact absurd (List.cons.inj h).1 hbackslash
  · next h =>
    obtain ⟨rfl, rfl⟩ := List.cons.inj h
    rw [if_pos hc]
  · next h => cases h

theorem lookup_mem {c e : Char} (h : shortEscapes.lookup c = some e) : (c, e) ∈ shortEscapes := by
  obtain ⟨l₁, l₂, hl, -⟩ := List.lookup_eq_some_iff.1 h
  rw [hl]
  exact List.mem_append_right _ List.mem_cons_self

theorem lookup_ne {c : Char} (h : shortEscapes.lookup c = none) {p : Char × Char} (hp : p ∈ shortEscapes) :
    c ≠ p.1 := by
  rintro rfl
  have hne := List.lookup_eq_none_iff.1 h p hp
  simp at hne

theorem readChar_escapeChar (c : Char) (rest : List Char) : readChar (escapeChar c ++ rest) = some (c, rest) := by
  unfold escapeChar
  cases hshort : shortEscapes.lookup c with
  | some e => exact readChar_short (c, e) (lookup_mem hshort) rest
  | none =>
    have hbackslash : c ≠ '\\' := lookup_ne hshort (p := ('\\', '\\')) (by decide)
    dsimp only
    split_ifs with hprintable hbasic
    · exact readChar_printable hbackslash hprintable rest
    · rw [readChar_unicodeEscape]
      exact readUnicode_basic hbasic rest
    · rw [List.append_assoc, readChar_unicodeEscape]
      exact readUnicode_pair (not_lt.1 hbasic) rest

/-- an escaped character is never the quote that closes the string -/
theorem escapeChar_append_ne (c : Char) (rest rest' : List Char) : escapeChar c ++ rest ≠ '"' :: rest' := by
  unfold escapeChar
  cases hshort : shortEscapes.lookup c with
  | some e => simp
  | none =>
    have hquote : c ≠ '"' := lookup_ne hshort (p := ('"', '"')) (by decide)
    dsimp only
    split_ifs <;> simp [unicodeEscape, hquote]

theorem isPrintable_digitChar {n : ℕ} (h : n < 16) : isPrintable (Nat.digitChar n) = true := by
  revert h
  revert n
  decide

theorem isPrintable_unicodeEscape {n : ℕ} (h : n < 0x10000) : ∀ c ∈ unicodeEscape n, isPrintable c = true := by
  have h₁ := isPrintable_digitChar (n := n / 4096) (by omega)
  have h₂ := isPrintable_digitChar (n := n / 256 % 16) (by omega)
  have h₃ := isPrintable_digitChar (n := n / 16 % 16) (by omega)
  have h₄ := isPrintable_digitChar (n := n % 16) (by omega)
  have hb : isPrintable '\\' = true ∧ isPrintable 'u' = true := by decide
  simp [unicodeEscape, hex4, h₁, h₂, h₃, h₄, hb]

theorem isPrintable_escapeChar (c : Char) : ∀ x ∈ escapeChar c, isPrintable x = true := by
  unfold escapeChar
  cases hshort : shortEscapes.lookup c with
  | some e =>
    have hall : ∀ p ∈ shortEscapes, isPrintable p.2 = true := by decide
    have hb : isPrintable '\\' = true := by decide
    simp [hall _ (lookup_mem hshort), hb]
  | none =>
    have hmax := toNat_valid c
    dsimp only
    split_ifs with hprintable hbasic
    · simp [hprintable]
    · exact isPrintable_unicodeEscape hbasic
    · obtain ⟨hhigh, hlow⟩ := halves_lt (not_lt.1 hbasic) (by omega)
      intro x hx
      rcases List.mem_append.1 hx with hx | hx
      · exact isPrintable_unicodeEscape hhigh x hx
      · exact isPrintable_unicodeEscape hlow x hx

/-! ## Strings and numbers -/

theorem readString_cons {l : List Char} (h : ∀ rest, l ≠ '"' :: rest) (n : ℕ) :
    readString (n + 1) l =
      match readChar l with
      | none => none
      | some (c, rest) => (readString n rest).map fun p => (c :: p.1, p.2) := by
  rw [readString]
  exact fun rest hl => h rest hl

theorem readString_escape (cs rest : List Char) {n : ℕ} (h : cs.length < n) :
    readString n (cs.flatMap escapeChar ++ '"' :: rest) = some (cs, rest) := by
  induction cs generalizing n with
  | nil =>
    obtain ⟨n, rfl⟩ := Nat.exists_eq_succ_of_ne_zero (Nat.ne_zero_of_lt h)
    rfl
  | cons c cs ih =>
    obtain ⟨n, rfl⟩ := Nat.exists_eq_succ_of_ne_zero (Nat.ne_zero_of_lt h)
    rw [List.flatMap_cons, List.append_assoc, readString_cons (escapeChar_append_ne c _), readChar_escapeChar]
    dsimp only
    rw [ih (by simpa using h)]
    rfl

/-- the text after a number does not begin with a digit -/
def NoDigit (rest : List Char) : Prop := ∀ c ∈ rest.head?, c.isDigit = false

theorem takeWhile_digits (n : ℕ) {rest : List Char} (h : NoDigit rest) :
    (Nat.toDigits 10 n ++ rest).takeWhile Char.isDigit = Nat.toDigits 10 n ∧
      (Nat.toDigits 10 n ++ rest).dropWhile Char.isDigit = rest := by
  have hdigits : ∀ c ∈ Nat.toDigits 10 n, c.isDigit = true := fun c hc =>
    Nat.isDigit_of_mem_toDigits (by decide) (by decide) hc
  rw [List.takeWhile_append_of_pos hdigits, List.dropWhile_append_of_pos hdigits]
  cases rest with
  | nil => simp
  | cons c rest =>
    have hc := h c (by simp)
    simp [hc]

/-- a number begins with a digit or a minus sign -/
theorem toDigits_append_ne {c : Char} (hc : c.isDigit = false) (n : ℕ) (rest rest' : List Char) :
    Nat.toDigits 10 n ++ rest ≠ c :: rest' := by
  intro heq
  cases hdigits : Nat.toDigits 10 n with
  | nil => exact Nat.toDigits_ne_nil hdigits
  | cons d ds =>
    have hd : d.isDigit = true :=
      Nat.isDigit_of_mem_toDigits (by decide) (by decide) (hdigits ▸ List.mem_cons_self)
    rw [hdigits] at heq
    rw [(List.cons.inj heq).1, hc] at hd
    cases hd

theorem readInt_dumpInt (i : ℤ) {rest : List Char} (h : NoDigit rest) :
    readInt (dumpInt i ++ rest) = some (i, rest) := by
  obtain ⟨htake, hdrop⟩ := takeWhile_digits i.natAbs h
  have hne : (Nat.toDigits 10 i.natAbs).isEmpty = false := by simp [List.isEmpty_eq_false_iff, Nat.toDigits_ne_nil]
  unfold dumpInt
  split_ifs with hi
  · simp only [List.cons_append, readInt, htake, hdrop, hne, Nat.ofDigitChars_ten_toDigits,
      Bool.false_eq_true, if_false]
    congr 2
    omega
  · unfold readInt
    split
    · next hl => exact absurd hl (toDigits_append_ne (by decide) _ _ _)
    · simp only [htake, hdrop, hne, Nat.ofDigitChars_ten_toDigits, Bool.false_eq_true, if_false]
      congr 2
      omega

theorem dumpInt_append_ne {c : Char} (hdigit : c.isDigit = false) (hminus : c ≠ '-') (i : ℤ) (rest rest' : List Char) :
    dumpInt i ++ rest ≠ c :: rest' := by
  unfold dumpInt
  split_ifs
  · exact fun heq => hminus (List.cons.inj heq).1.symm
  · exact toDigits_append_ne hdigit _ _ _

theorem length_flatMap_escapeChar (cs : List Char) : cs.length ≤ (cs.flatMap escapeChar).length := by
  induction cs with
  | nil => exact Nat.le_refl 0
  | cons c cs ih =>
    have hc : escapeChar c ≠ [] := by
      intro hnil
      have hread := readChar_escapeChar c []
      rw [hnil] at hread
      cases hread
    have hlength := List.length_pos_of_ne_nil hc
    rw [List.flatMap_cons, List.length_append, List.length_cons]
    omega

theorem readString_dumpString (s : String) (rest : List Char) :
    ∃ l, dumpString s ++ rest = '"' :: l ∧ readString (l.length + 1) l = some (s.toList, rest) := by
  refine ⟨s.toList.flatMap escapeChar ++ '"' :: rest, by simp [dumpString], readString_escape s.toList rest ?_⟩
  have hlength := length_flatMap_escapeChar s.toList
  rw [List.length_append]
  omega

/-! ## Values -/

theorem readValue_num (n : ℕ) (i : ℤ) {rest : List Char} (h : NoDigit rest) :
    readValue (n + 1) (dumpInt i ++ rest) = some (.num i, rest) := by
  unfold readValue
  split
  all_goals try (next heq => exact absurd heq (dumpInt_append_ne (by decide) (by decide) i rest _))
  rw [readInt_dumpInt i h]
  rfl

theorem dump_append_ne (v : Json) (rest rest' : List Char) : v.dump ++ rest ≠ ']' :: rest' := by
  cases v with
  | num i => exact dumpInt_append_ne (by decide) (by decide) i rest rest'
  | bool b => cases b <;> simp [dump]
  | _ => simp [dump, dumpString]

theorem noDigit_cons {c : Char} (hc : c.isDigit = false) (rest : List Char) : NoDigit (c :: rest) := by
  intro x hx
  cases hx
  exact hc

theorem dumpItems_cons_append_ne (v : Json) (items : List Json) (rest rest' : List Char) :
    dumpItems (v :: items) ++ rest ≠ ']' :: rest' := by
  cases items with
  | nil => exact dump_append_ne v rest rest'
  | cons w items =>
    rw [dumpItems, List.append_assoc]
    · exact dump_append_ne v _ rest'
    · simp

/-- what a reader with the bound `n` gives back -/
structure ReadsBack (n : ℕ) : Prop where
  value : ∀ (v : Json) (rest : List Char), v.dump.length < n → NoDigit rest →
    readValue n (v.dump ++ rest) = some (v, rest)
  items : ∀ (v : Json) (items : List Json) (rest : List Char), (dumpItems (v :: items)).length + 1 < n →
    readItems n (dumpItems (v :: items) ++ ']' :: rest) = some (v :: items, rest)
  fields : ∀ (key : String) (v : Json) (fields : List (String × Json)) (rest : List Char),
    (dumpFields ((key, v) :: fields)).length + 1 < n →
      readFields n (dumpFields ((key, v) :: fields) ++ '}' :: rest) = some ((key, v) :: fields, rest)

section Step

variable {n : ℕ} (ih : ReadsBack n) (rest : List Char)

include ih

theorem readValue_dump (v : Json) (hn : v.dump.length < n + 1) (hrest : NoDigit rest) :
    readValue (n + 1) (v.dump ++ rest) = some (v, rest) := by
  cases v with
  | null => rfl
  | bool b => cases b <;> rfl
  | num i => exact readValue_num n i hrest
  | str s =>
    obtain ⟨l, hl, hread⟩ := readString_dumpString s rest
    rw [dump, hl, readValue, hread, Option.map_some, String.ofList_toList]
  | arr items =>
    cases items with
    | nil => rfl
    | cons v items =>
      simp only [dump, List.length_cons, List.length_append, List.length_nil] at hn
      rw [dump, List.cons_append, List.cons_append, List.append_assoc, List.singleton_append, readValue,
        ih.items v items rest (by omega), Option.map_some]
      exact fun rest' heq => dumpItems_cons_append_ne v items _ _ heq
  | obj fields =>
    cases fields with
    | nil => rfl
    | cons field fields =>
      obtain ⟨key, v⟩ := field
      simp only [dump, List.length_cons, List.length_append, List.length_nil] at hn
      rw [dump, List.cons_append, List.cons_append, List.append_assoc, List.singleton_append, readValue,
        ih.fields key v fields rest (by omega), Option.map_some]
      intro rest' heq
      cases fields <;> simp [dumpFields, dumpString] at heq

theorem readItems_dumpItems (v : Json) (items : List Json) (hn : (dumpItems (v :: items)).length + 1 < n + 1) :
    readItems (n + 1) (dumpItems (v :: items) ++ ']' :: rest) = some (v :: items, rest) := by
  cases items with
  | nil =>
    rw [dumpItems] at hn ⊢
    rw [readItems, ih.value v _ (by omega) (noDigit_cons (by decide) rest)]
    rfl
  | cons w items =>
    have hcons : dumpItems (v :: w :: items) = v.dump ++ ',' :: dumpItems (w :: items) := by rw [dumpItems]; simp
    rw [hcons, List.length_append, List.length_cons] at hn
    rw [hcons, List.append_assoc, List.cons_append, readItems,
      ih.value v _ (by omega) (noDigit_cons (by decide) _)]
    simp only [ih.items w items rest (by omega), Option.map_some]

theorem readFields_dumpFields (key : String) (v : Json) (fields : List (String × Json))
    (hn : (dumpFields ((key, v) :: fields)).length + 1 < n + 1) :
    readFields (n + 1) (dumpFields ((key, v) :: fields) ++ '}' :: rest) = some ((key, v) :: fields, rest) := by
  cases fields with
  | nil =>
    have hone : dumpFields [(key, v)] = dumpString key ++ ':' :: v.dump := by rw [dumpFields]
    rw [hone, List.length_append, List.length_cons] at hn
    obtain ⟨l, hl, hread⟩ := readString_dumpString key (':' :: (v.dump ++ '}' :: rest))
    have hv := ih.value v ('}' :: rest) (by omega) (noDigit_cons (by decide) rest)
    rw [hone, List.append_assoc, List.cons_append, hl, readFields]
    simp only [hread, hv, String.ofList_toList]
  | cons field fields =>
    obtain ⟨key', w⟩ := field
    have hcons : dumpFields ((key, v) :: (key', w) :: fields) =
        dumpString key ++ ':' :: v.dump ++ ',' :: dumpFields ((key', w) :: fields) := by
      rw [dumpFields]
      simp
    rw [hcons, List.length_append, List.length_append, List.length_cons, List.length_cons] at hn
    obtain ⟨l, hl, hread⟩ := readString_dumpString key
      (':' :: (v.dump ++ ',' :: (dumpFields ((key', w) :: fields) ++ '}' :: rest)))
    have hv := ih.value v (',' :: (dumpFields ((key', w) :: fields) ++ '}' :: rest)) (by omega)
      (noDigit_cons (by decide) _)
    rw [hcons, List.append_assoc, List.append_assoc, List.cons_append, List.cons_append, hl, readFields]
    simp only [hread, hv, String.ofList_toList, ih.fields key' w fields rest (by omega), Option.map_some]

end Step

theorem readsBack (n : ℕ) : ReadsBack n := by
  induction n with
  | zero => constructor <;> intros <;> omega
  | succ n ih => exact ⟨fun v rest => readValue_dump ih rest v, fun v items rest => readItems_dumpItems ih rest v items,
      fun key v fields rest => readFields_dumpFields ih rest key v fields⟩

/-- every value is read back from its text -/
theorem loads_dumps (v : Json) : loads (dumps v) = some v := by
  have hread := (readsBack (v.dump.length + 1)).value v [] (Nat.lt_succ_self _) (fun c hc => by cases hc)
  rw [List.append_nil] at hread
  rw [loads, dumps, String.toList_ofList, hread]

/-! ## What a text holds -/

theorem printable_dumpString (s : String) : ∀ c ∈ dumpString s, isPrintable c = true := by
  have hquote : isPrintable '"' = true := by decide
  intro c hc
  simp only [dumpString, List.cons_append, List.mem_cons, List.mem_append, List.mem_flatMap, List.not_mem_nil,
    or_false] at hc
  rcases hc with rfl | ⟨x, -, hx⟩ | rfl
  · exact hquote
  · exact isPrintable_escapeChar x c hx
  · exact hquote

theorem printable_toDigits (n : ℕ) : ∀ c ∈ Nat.toDigits 10 n, isPrintable c = true := by
  intro c hc
  have hdigit : c.isDigit = true := Nat.isDigit_of_mem_toDigits (by decide) (by decide) hc
  simp only [Char.isDigit, Bool.and_eq_true, decide_eq_true_eq, ge_iff_le, UInt32.le_iff_toNat_le] at hdigit
  have hlow : 48 ≤ c.toNat := hdigit.1
  have hhigh : c.toNat ≤ 57 := hdigit.2
  rw [isPrintable, decide_eq_true_eq]
  omega

theorem printable_dumpInt (i : ℤ) : ∀ c ∈ dumpInt i, isPrintable c = true := by
  have hminus : isPrintable '-' = true := by decide
  unfold dumpInt
  split_ifs
  · intro c hc
    rcases List.mem_cons.1 hc with rfl | hc
    · exact hminus
    · exact printable_toDigits _ c hc
  · exact printable_toDigits _

mutual

theorem printable_dump (v : Json) : ∀ c ∈ v.dump, isPrintable c = true := by
  cases v with
  | null => exact List.all_eq_true.1 rfl
  | bool b => cases b <;> exact List.all_eq_true.1 rfl
  | num i => exact printable_dumpInt i
  | str s => exact printable_dumpString s
  | arr items =>
    have hbrackets : isPrintable '[' = true ∧ isPrintable ']' = true := by decide
    have hitems := printable_dumpItems items
    simp only [dump, List.cons_append, List.mem_cons, List.mem_append, List.not_mem_nil, or_false]
    rintro c (rfl | hc | rfl)
    · exact hbrackets.1
    · exact hitems c hc
    · exact hbrackets.2
  | obj fields =>
    have hbraces : isPrintable '{' = true ∧ isPrintable '}' = true := by decide
    have hfields := printable_dumpFields fields
    simp only [dump, List.cons_append, List.mem_cons, List.mem_append, List.not_mem_nil, or_false]
    rintro c (rfl | hc | rfl)
    · exact hbraces.1
    · exact hfields c hc
    · exact hbraces.2

theorem printable_dumpItems (items : List Json) : ∀ c ∈ dumpItems items, isPrintable c = true := by
  have hcomma : isPrintable ',' = true := by decide
  match items with
  | [] => exact fun c hc => by cases hc
  | [v] => exact printable_dump v
  | v :: w :: items =>
    have hv := printable_dump v
    have hitems := printable_dumpItems (w :: items)
    have hcons : dumpItems (v :: w :: items) = v.dump ++ ',' :: dumpItems (w :: items) := by rw [dumpItems]; simp
    rw [hcons]
    intro c hc
    rcases List.mem_append.1 hc with hc | hc
    · exact hv c hc
    · rcases List.mem_cons.1 hc with rfl | hc
      · exact hcomma
      · exact hitems c hc

theorem printable_dumpFields (fields : List (String × Json)) : ∀ c ∈ dumpFields fields, isPrintable c = true := by
  have hpunctuation : isPrintable ':' = true ∧ isPrintable ',' = true := by decide
  match fields with
  | [] => exact fun c hc => by cases hc
  | [(key, v)] =>
    have hv := printable_dump v
    rw [dumpFields]
    intro c hc
    rcases List.mem_append.1 hc with hc | hc
    · exact printable_dumpString key c hc
    · rcases List.mem_cons.1 hc with rfl | hc
      · exact hpunctuation.1
      · exact hv c hc
  | (key, v) :: field :: fields =>
    have hv := printable_dump v
    have hfields := printable_dumpFields (field :: fields)
    have hcons : dumpFields ((key, v) :: field :: fields) =
        dumpString key ++ ':' :: v.dump ++ ',' :: dumpFields (field :: fields) := by
      rw [dumpFields]
      simp
    rw [hcons]
    intro c hc
    simp only [List.mem_append, List.mem_cons] at hc
    rcases hc with (hc | rfl | hc) | rfl | hc
    · exact printable_dumpString key c hc
    · exact hpunctuation.1
    · exact hv c hc
    · exact hpunctuation.2
    · exact hfields c hc

end

theorem printable_of_mem_dumps (v : Json) {c : Char} (hc : c ∈ (dumps v).toList) : isPrintable c = true := by
  rw [dumps, String.toList_ofList] at hc
  exact printable_dump v c hc


end Json

end InferencePlatform.Core
