/-
The vLLM backend: how `stream_request` turns the lines of an upstream event stream into chunks.

A line that starts with `data:` holds a chat completion chunk or `[DONE]`; every other line is passed over. `json.loads`
is the argument `loads`. What the loop takes from a decoded chunk is its first choice's content and finish reason; a
content or a finish reason that is no string, which the API does not send, counts as malformed. A line comes with the
clock when it is read.

- `streamLines_spoken`: the loop yields a chunk for each delta that carries something, up to the first finish reason;
- `stream_contract_iff`: the chunks are numbered, complete, and have one first and one last chunk exactly when the
  upstream finishes with content behind it, or says nothing at all;
- `stream_without_content`: an upstream that does not.
-/
import InferencePlatform.Adapter.Vllm
import InferencePlatform.Streaming.Models

namespace InferencePlatform.Adapter

open InferencePlatform.Core (Dict Json)
open Streaming (StreamChunk)

/-! ## Lines -/

/-- the characters that `str.strip` removes -/
def isSpace (c : Char) : Bool :=
  let n := c.toNat
  9 ≤ n ∧ n ≤ 13 ∨ 28 ≤ n ∧ n ≤ 32 ∨ n = 0x85 ∨ n = 0xA0 ∨ n = 0x1680 ∨ 0x2000 ≤ n ∧ n ≤ 0x200A ∨
    n = 0x2028 ∨ n = 0x2029 ∨
    n = 0x202F ∨ n = 0x205F ∨ n = 0x3000

def strip (text : List Char) : List Char := ((text.dropWhile isSpace).reverse.dropWhile isSpace).reverse

/-- what follows `data:`, stripped; `none` for every other line -/
def lineData (line : String) : Option String :=
  if "data:".toList.isPrefixOf line.toList then some (String.ofList (strip (line.toList.drop 5))) else none

/-! ## Deltas -/

def truthy : Json → Bool
  | .null => false
  | .bool b => b
  | .num i => i ≠ 0
  | .str s => s ≠ ""
  | .arr items => !items.isEmpty
  | .obj fields => !fields.isEmpty

def typeName : Json → String
  | .null => "NoneType"
  | .bool _ => "bool"
  | .num _ => "int"
  | .str _ => "str"
  | .arr _ => "list"
  | .obj _ => "dict"

/-- `value.get(key)`: the last of equal keys counts -/
def getKey (key : String) : Json → Except String (Option Json)
  | .obj fields => .ok ((fields.reverse.find? fun field => field.1 = key).map Prod.snd)
  | value => .error s!"'{typeName value}' object has no attribute 'get'"

/-- `value or default` -/
def jsonOr (value : Option Json) (default : Json) : Json := (value.filter truthy).getD default

/-- `value[0]` of a truthy value; the first character of a string is a string -/
def firstOf : Json → Except String Json
  | .arr (first :: _) => .ok first
  | .str s => .ok (.str (String.ofList (s.toList.take 1)))
  | .obj _ => .error "0"
  | value => .error s!"'{typeName value}' object is not subscriptable"

structure StreamDelta where
  content : String
  finishReason : Option String
  deriving DecidableEq, Repr

def readDelta (body : Json) : Except String StreamDelta := do
  let choice ← firstOf (jsonOr (← getKey "choices" body) (.arr [.obj []]))
  let delta := jsonOr (← getKey "delta" choice) (.obj [])
  let content ← match jsonOr (← getKey "content" delta) (.str "") with
    | .str s => .ok s
    | _ => .error "content is no string"
  let finishReason ← match ← getKey "finish_reason" choice with
    | none | some .null => .ok none
    | some (.str s) => .ok (some s)
    | some _ => .error "finish reason is no string"
  return { content, finishReason }

namespace StreamDelta

/-- something for the client is in it -/
def carries (delta : StreamDelta) : Bool := delta.content ≠ "" ∨ delta.finishReason ≠ none

/-- the truth value of its finish reason -/
def finishes (delta : StreamDelta) : Bool := delta.finishReason.getD "" ≠ ""

def chunk (requestId : UUID) (index : ℕ) (time : Time) (delta : StreamDelta) : StreamChunk :=
  { requestId, index, deltaText := delta.content, finishReason := delta.finishReason, timestamp := time
    isFirst := index = 0 ∧ delta.content ≠ "" }

/-- the index of the next chunk -/
def next (index : ℕ) (delta : StreamDelta) : ℕ := if delta.content ≠ "" then index + 1 else index

end StreamDelta

/-! ## The stream -/

/-- how the loop over the lines ends, and the index it has reached -/
inductive LoopEnd
  | exhausted (index : ℕ)
  /-- by `break` -/
  | left (index : ℕ)
  | raised (message : String)
  deriving DecidableEq, Repr

variable (cfg : VLLMBackendConfig) (loads : String → Except String Json) (requestId : UUID)

def streamLines : ℕ → List (Time × String) → List StreamChunk × LoopEnd
  | index, [] => ([], .exhausted index)
  | index, (time, line) :: rest =>
    match lineData line with
    | none => streamLines index rest
    | some data =>
      if data = "[DONE]" then ([], .left index)
      else
        match loads data >>= readDelta with
        | .error message => ([], .raised message)
        | .ok delta =>
          if delta.carries then
            if delta.finishes then ([delta.chunk requestId index time], .left (delta.next index))
            else
              let (chunks, ending) := streamLines (delta.next index) rest
              (delta.chunk requestId index time :: chunks, ending)
          else streamLines index rest

/-- the response to the POST: its lines, and the error that cuts them off, if one does -/
structure StreamReply where
  statusCode : ℕ
  lines : List (Time × String)
  broken : Option ClientError
  endedAt : Time

def streamError : ClientError → BackendError
  | .timeout _ => .timeout s!"vllm stream timed out after {cfg.requestTimeoutSeconds}s"
  | .request message => .unavailable s!"vllm stream failed: {message}"
  | .raised message => .raised message

/-- the chunk that ends a stream in which no content was seen -/
def closingChunk (time : Time) : StreamChunk :=
  { requestId, index := 0, deltaText := "", finishReason := some "stop", timestamp := time, isFirst := true }

/-- what follows the loop -/
def closeStream (b : VLLMBackend) (chunks : List StreamChunk) (index : ℕ) (time : Time) :
    List StreamChunk × Except BackendError VLLMBackend :=
  (if index = 0 then chunks ++ [closingChunk requestId time] else chunks,
    .ok { b with requestStatus := b.requestStatus.set requestId .completed })

/-- `stream_request`: the chunks it yields, and what comes after them -/
def streamRequest (b : VLLMBackend) : Except ClientError StreamReply →
    List StreamChunk × Except BackendError VLLMBackend
  | .error err => ([], .error (streamError cfg err))
  | .ok reply =>
    if 400 ≤ reply.statusCode then ([], .error (.internalFailure s!"vllm stream error: {reply.statusCode}"))
    else
      let (chunks, ending) := streamLines loads requestId 0 reply.lines
      match ending, reply.broken with
      | .raised message, _ => (chunks, .error (.raised message))
      | .exhausted _, some err => (chunks, .error (streamError cfg err))
      | .exhausted index, none | .left index, _ => closeStream requestId b chunks index reply.endedAt

/-! ## What the upstream says -/

/-- every data line up to `[DONE]` and beyond holds a chunk -/
def WellFormed (lines : List (Time × String)) : Prop :=
  ∀ p ∈ lines, ∀ data, lineData p.2 = some data → data ≠ "[DONE]" → ∃ delta, loads data >>= readDelta = .ok delta

/-- the deltas up to the first finish reason or `[DONE]` -/
def spoken : List (Time × String) → List (Time × StreamDelta)
  | [] => []
  | (time, line) :: rest =>
    match lineData line with
    | none => spoken rest
    | some data =>
      if data = "[DONE]" then []
      else
        match loads data >>= readDelta with
        | .error _ => []
        | .ok delta => (time, delta) :: if delta.finishes then [] else spoken rest

/-- those that carry something -/
def carrying (said : List (Time × StreamDelta)) : List (Time × StreamDelta) := said.filter fun p => p.2.carries

def carried (lines : List (Time × String)) : List (Time × StreamDelta) := carrying (spoken loads lines)

def upstreamText (lines : List (Time × String)) : String := String.join ((spoken loads lines).map fun p => p.2.content)

/-- chunks numbered from `index` on -/
def chunksOf : ℕ → List (Time × StreamDelta) → List StreamChunk
  | _, [] => []
  | index, p :: rest => p.2.chunk requestId index p.1 :: chunksOf (p.2.next index) rest

/-- how many of them have content -/
def contents (said : List (Time × StreamDelta)) : ℕ := said.countP fun p => p.2.content ≠ ""

variable {loads requestId} {lines : List (Time × String)} {said : List (Time × StreamDelta)} {index : ℕ}

theorem carrying_of_carries {p : Time × StreamDelta} (h : p.2.carries = true) (rest : List (Time × StreamDelta)) :
    carrying (p :: rest) = p :: carrying rest := List.filter_cons_of_pos h

theorem carrying_of_not_carries {p : Time × StreamDelta} (h : ¬p.2.carries = true) (rest : List (Time × StreamDelta)) :
    carrying (p :: rest) = carrying rest := List.filter_cons_of_neg h

theorem StreamDelta.next_eq (index : ℕ) (p : Time × StreamDelta) : p.2.next index = index + contents [p] := by
  by_cases h : p.2.content = ""
  · simp [StreamDelta.next, contents, h]
  · simp [StreamDelta.next, contents, h]

theorem contents_cons (p : Time × StreamDelta) (rest : List (Time × StreamDelta)) :
    contents (p :: rest) = contents [p] + contents rest := by
  rw [contents, ← List.singleton_append, List.countP_append]
  rfl

theorem finishes_carries {delta : StreamDelta} (h : delta.finishes = true) : delta.carries = true := by
  cases hreason : delta.finishReason with
  | none => simp [StreamDelta.finishes, hreason] at h
  | some reason => simp [StreamDelta.carries, hreason]

/-- the loop yields a chunk for each delta that carries something, and its index counts those with content -/
theorem streamLines_spoken (requestId : UUID) (hwell : WellFormed loads lines) (index : ℕ) : ∃ ending,
    streamLines loads requestId index lines = (chunksOf requestId index (carried loads lines), ending) ∧
      (ending = .exhausted (index + contents (carried loads lines)) ∨
        ending = .left (index + contents (carried loads lines))) := by
  induction lines generalizing index with
  | nil => exact ⟨_, rfl, Or.inl rfl⟩
  | cons p rest ih =>
    obtain ⟨time, line⟩ := p
    have hrest := fun index => ih (fun p hp => hwell p (List.mem_cons_of_mem _ hp)) index
    cases hline : lineData line with
    | none =>
      have hcarried : carried loads ((time, line) :: rest) = carried loads rest := by simp only [carried, spoken, hline]
      obtain ⟨ending, hrun, hending⟩ := hrest index
      refine ⟨ending, ?_, hcarried ▸ hending⟩
      rw [hcarried, ← hrun]
      simp only [streamLines, hline]
    | some data =>
      by_cases hdone : data = "[DONE]"
      · have hcarried : carried loads ((time, line) :: rest) = [] := by
          simp only [carried, spoken, hline, if_pos hdone]
          rfl
        refine ⟨.left index, ?_, Or.inr ?_⟩
        · rw [hcarried]
          simp only [streamLines, hline, if_pos hdone]
          rfl
        · rw [hcarried]
          rfl
      · obtain ⟨delta, hdelta⟩ := hwell (time, line) List.mem_cons_self data hline hdone
        have hspoken : spoken loads ((time, line) :: rest) =
            (time, delta) :: if delta.finishes then [] else spoken loads rest := by
          simp only [spoken, hline, if_neg hdone, hdelta]
        by_cases hcarries : delta.carries = true
        · have hcount : index + contents [(time, delta)] = delta.next index :=
            (StreamDelta.next_eq index (time, delta)).symm
          by_cases hfinishes : delta.finishes = true
          · have hcarried : carried loads ((time, line) :: rest) = [(time, delta)] := by
              rw [carried, hspoken, if_pos hfinishes, carrying_of_carries hcarries]
              rfl
            refine ⟨.left (delta.next index), ?_, Or.inr ?_⟩
            · rw [hcarried]
              simp only [streamLines, hline, if_neg hdone, hdelta, if_pos hcarries, if_pos hfinishes]
              rfl
            · rw [hcarried, hcount]
          · have hcarried : carried loads ((time, line) :: rest) = (time, delta) :: carried loads rest := by
              rw [carried, hspoken, if_neg hfinishes, carrying_of_carries hcarries]
              rfl
            obtain ⟨ending, hrun, hending⟩ := hrest (delta.next index)
            refine ⟨ending, ?_, ?_⟩
            · rw [hcarried]
              simp only [streamLines, hline, if_neg hdone, hdelta, if_pos hcarries, if_neg hfinishes, hrun]
              rfl
            · rw [hcarried, contents_cons, ← Nat.add_assoc, hcount]
              exact hending
        · have hfinishes : ¬delta.finishes = true := fun h => hcarries (finishes_carries h)
          have hcarried : carried loads ((time, line) :: rest) = carried loads rest := by
            rw [carried, hspoken, if_neg hfinishes, carrying_of_not_carries hcarries]
            rfl
          obtain ⟨ending, hrun, hending⟩ := hrest index
          refine ⟨ending, ?_, hcarried ▸ hending⟩
          rw [hcarried, ← hrun]
          simp only [streamLines, hline, if_neg hdone, hdelta, if_neg hcarries]

/-- only the last delta that counts can finish the stream -/
theorem carried_pairwise (loads : String → Except String Json) (lines : List (Time × String)) :
    (carried loads lines).Pairwise fun p _ => p.2.finishes = false := by
  refine List.Pairwise.filter _ ?_
  induction lines with
  | nil => exact List.Pairwise.nil
  | cons p rest ih =>
    obtain ⟨time, line⟩ := p
    unfold spoken
    split
    · exact ih
    · split_ifs
      · exact List.Pairwise.nil
      · split
        · exact List.Pairwise.nil
        · rename_i delta _
          cases hfinishes : delta.finishes with
          | true => simp
          | false => exact List.pairwise_cons.2 ⟨fun _ _ => hfinishes, ih⟩

/-- what carries nothing has no content -/
theorem join_carried (loads : String → Except String Json) (lines : List (Time × String)) :
    String.join ((carried loads lines).map fun p => p.2.content) = upstreamText loads lines := by
  unfold carried upstreamText
  induction spoken loads lines with
  | nil => rfl
  | cons p rest ih =>
    by_cases hcarries : p.2.carries = true
    · rw [carrying_of_carries hcarries, List.map_cons, List.map_cons, String.join_cons, String.join_cons, ih]
    · have hempty : p.2.content = "" := by
        by_contra hcontent
        exact hcarries (by simp [StreamDelta.carries, hcontent])
      rw [carrying_of_not_carries hcarries, List.map_cons, String.join_cons, ih, hempty, String.empty_append]

/-! ## The chunks -/

theorem length_chunksOf (requestId : UUID) (said : List (Time × StreamDelta)) (index : ℕ) :
    (chunksOf requestId index said).length = said.length := by
  induction said generalizing index with
  | nil => rfl
  | cons p rest ih => rw [chunksOf, List.length_cons, List.length_cons, ih]

theorem join_chunksOf (requestId : UUID) (said : List (Time × StreamDelta)) (index : ℕ) :
    String.join ((chunksOf requestId index said).map StreamChunk.deltaText) =
      String.join (said.map fun p => p.2.content) := by
  induction said generalizing index with
  | nil => rfl
  | cons p rest ih =>
    rw [chunksOf, List.map_cons, List.map_cons, String.join_cons, String.join_cons, ih]
    rfl

/-- a chunk's index is the number of contents before it -/
theorem getElem?_chunksOf (requestId : UUID) (said : List (Time × StreamDelta)) (index i : ℕ) :
    (chunksOf requestId index said)[i]? = said[i]?.map fun p =>
      p.2.chunk requestId (index + contents (said.take i)) p.1 := by
  induction said generalizing index i with
  | nil => rfl
  | cons p rest ih =>
    cases i with
    | zero => rfl
    | succ i =>
      rw [chunksOf, List.getElem?_cons_succ, List.getElem?_cons_succ, ih, List.take_succ_cons, contents_cons,
        StreamDelta.next_eq, Nat.add_assoc]

theorem contents_eq_length {said : List (Time × StreamDelta)} :
    contents said = said.length ↔ ∀ p ∈ said, p.2.content ≠ "" := by
  rw [contents, List.countP_eq_length]
  simp

theorem contents_eq_zero {said : List (Time × StreamDelta)} : contents said = 0 ↔ ∀ p ∈ said, p.2.content = "" := by
  rw [contents, List.countP_eq_zero]
  simp

/-- numbered without a gap, complete, one first chunk and one last -/
structure StreamContract (text : String) (chunks : List StreamChunk) : Prop where
  indices : chunks.map StreamChunk.index = List.range chunks.length
  text : String.join (chunks.map StreamChunk.deltaText) = text
  nonempty : chunks ≠ []
  first : ∀ i chunk, chunks[i]? = some chunk → (chunk.isFirst = true ↔ i = 0)
  last : ∀ i chunk, chunks[i]? = some chunk → (chunk.finishes = true ↔ i + 1 = chunks.length)

/-- nothing is carried; or a last delta finishes the stream, those before it have content, and there is some -/
def Terminated (said : List (Time × StreamDelta)) : Prop :=
  said = [] ∨ ∃ init last, said = init ++ [last] ∧ (∀ p ∈ init, p.2.content ≠ "") ∧ last.2.finishes = true ∧
    (init = [] → last.2.content ≠ "")

/-- with some content, the chunks are those of the deltas -/
theorem contract_chunksOf (requestId : UUID) (hcut : said.Pairwise fun p _ => p.2.finishes = false)
    (hsome : contents said ≠ 0) :
    StreamContract (String.join (said.map fun p => p.2.content)) (chunksOf requestId 0 said) ↔ Terminated said := by
  constructor
  · intro h
    rcases List.eq_nil_or_concat said with rfl | ⟨init, last, rfl⟩
    · exact absurd rfl hsome
    rw [List.concat_eq_append] at h hsome ⊢
    have hlast : (chunksOf requestId 0 (init ++ [last]))[init.length]? =
        some (last.2.chunk requestId (contents init) last.1) := by
      rw [getElem?_chunksOf, List.getElem?_concat_length, List.take_left, Nat.zero_add]
      rfl
    refine Or.inr ⟨init, last, rfl, ?_, ?_, ?_⟩
    · -- the last index is the number of chunks before it
      have hindex := congrArg (fun l : List ℕ => l[init.length]?) h.indices
      simp only [List.getElem?_map, hlast, length_chunksOf, List.length_append, List.length_singleton] at hindex
      rw [List.getElem?_range (Nat.lt_succ_self _)] at hindex
      exact contents_eq_length.1 (Option.some.inj hindex)
    · refine (h.last init.length _ hlast).2 ?_
      rw [length_chunksOf, List.length_append, List.length_singleton]
    · rintro rfl hempty
      exact hsome (contents_eq_zero.2 (by simpa using hempty))
  · rintro (rfl | ⟨init, last, rfl, hinit, hfinishes, hlast⟩)
    · exact absurd rfl hsome
    have hbefore : ∀ i ≤ init.length, contents ((init ++ [last]).take i) = i := by
      intro i hi
      rw [List.take_append_of_le_length hi]
      have hall : contents (init.take i) = (init.take i).length :=
        contents_eq_length.2 fun p hp => hinit p (List.mem_of_mem_take hp)
      rw [hall, List.length_take, min_eq_left hi]
    have hget : ∀ i chunk, (chunksOf requestId 0 (init ++ [last]))[i]? = some chunk → i ≤ init.length ∧
        ∃ p, (init ++ [last])[i]? = some p ∧ chunk = p.2.chunk requestId i p.1 := by
      intro i chunk hchunk
      rw [getElem?_chunksOf, Option.map_eq_some_iff] at hchunk
      obtain ⟨p, hp, rfl⟩ := hchunk
      have hi : i ≤ init.length := by
        have hlt := (List.getElem?_eq_some_iff.1 hp).1
        rw [List.length_append, List.length_singleton] at hlt
        omega
      exact ⟨hi, p, hp, by rw [hbefore i hi, Nat.zero_add]⟩
    refine ⟨?_, join_chunksOf requestId _ 0, ?_, fun i chunk hchunk => ?_, fun i chunk hchunk => ?_⟩
    · refine List.ext_getElem? fun i => ?_
      rw [List.getElem?_map]
      cases hchunk : (chunksOf requestId 0 (init ++ [last]))[i]? with
      | none =>
        have hlen := List.getElem?_eq_none_iff.1 hchunk
        exact (List.getElem?_eq_none (by rwa [List.length_range])).symm
      | some chunk =>
        obtain ⟨-, p, -, rfl⟩ := hget i chunk hchunk
        rw [List.getElem?_range (List.getElem?_eq_some_iff.1 hchunk).1]
        rfl
    · intro hnil
      have hlen := length_chunksOf requestId (init ++ [last]) 0
      rw [hnil, List.length_append, List.length_singleton] at hlen
      cases hlen
    · obtain ⟨-, p, hp, rfl⟩ := hget i chunk hchunk
      cases i with
      | zero =>
        have hcontent : p.2.content ≠ "" := by
          cases init with
          | nil =>
            obtain rfl : last = p := Option.some.inj hp
            exact hlast rfl
          | cons q rest =>
            obtain rfl : q = p := Option.some.inj hp
            exact hinit q List.mem_cons_self
        simp [StreamDelta.chunk, hcontent]
      | succ i => simp [StreamDelta.chunk]
    · obtain ⟨hi, p, hp, rfl⟩ := hget i chunk hchunk
      rw [length_chunksOf, List.length_append, List.length_singleton, Nat.add_right_cancel_iff]
      rcases hi.lt_or_eq with hlt | rfl
      · rw [List.getElem?_append_left hlt] at hp
        have hno := (List.pairwise_append.1 hcut).2.2 p (List.mem_of_getElem? hp) last (List.mem_singleton_self _)
        exact iff_of_false (fun h => Bool.false_ne_true (hno.symm.trans h)) hlt.ne
      · rw [List.getElem?_concat_length] at hp
        obtain rfl : last = p := Option.some.inj hp
        exact iff_of_true hfinishes rfl

/-- with no content, the closing chunk comes last -/
theorem contract_closed (requestId : UUID) (hnone : contents said = 0) (time : Time) :
    StreamContract (String.join (said.map fun p => p.2.content))
      (chunksOf requestId 0 said ++ [closingChunk requestId time]) ↔
      Terminated said := by
  have hempty := contents_eq_zero.1 hnone
  constructor
  · intro h
    cases said with
    | nil => exact Or.inl rfl
    | cons p rest =>
      have hfirst := (h.first 0 (p.2.chunk requestId 0 p.1) rfl).2 rfl
      simp [StreamDelta.chunk, hempty p List.mem_cons_self] at hfirst
  · rintro (rfl | ⟨init, last, rfl, hinit, -, hlast⟩)
    · refine ⟨rfl, rfl, List.cons_ne_nil _ _, fun i chunk hchunk => ?_, fun i chunk hchunk => ?_⟩
      · cases i with
        | zero =>
          cases hchunk
          exact iff_of_true rfl rfl
        | succ i => cases hchunk
      · cases i with
        | zero =>
          cases hchunk
          exact iff_of_true rfl rfl
        | succ i => cases hchunk
    · cases init with
      | nil => exact absurd (hempty last (List.mem_singleton_self _)) (hlast rfl)
      | cons p rest => exact absurd (hempty p List.mem_cons_self) (hinit p List.mem_cons_self)

/-- the stream of a response that goes well: it returns, and keeps the contract exactly when the upstream terminates
it -/
theorem stream_contract_iff (cfg : VLLMBackendConfig) (loads : String → Except String Json) (requestId : UUID)
    (reply : StreamReply) (hstatus : reply.statusCode < 400) (hbroken : reply.broken = none)
    (hwell : WellFormed loads reply.lines) (b : VLLMBackend) :
    let outcome := streamRequest cfg loads requestId b (.ok reply)
    outcome.2 = .ok { b with requestStatus := b.requestStatus.set requestId .completed } ∧
      (StreamContract (upstreamText loads reply.lines) outcome.1 ↔ Terminated (carried loads reply.lines)) := by
  intro outcome
  obtain ⟨ending, hrun, hending⟩ := streamLines_spoken requestId hwell 0
  have hclose : outcome = closeStream requestId b (chunksOf requestId 0 (carried loads reply.lines))
      (contents (carried loads reply.lines)) reply.endedAt := by
    simp only [outcome, streamRequest, if_neg (not_le.2 hstatus), hrun, hbroken]
    rcases hending with rfl | rfl
    · rw [Nat.zero_add]
    · rw [Nat.zero_add]
  rw [hclose]
  refine ⟨rfl, ?_⟩
  rw [← join_carried]
  by_cases hnone : contents (carried loads reply.lines) = 0
  · simp only [closeStream, if_pos hnone]
    exact contract_closed requestId hnone reply.endedAt
  · simp only [closeStream, if_neg hnone]
    exact contract_chunksOf requestId (carried_pairwise loads reply.lines) hnone

/-! ## Runs -/

/-- the text of an object after `data: ` -/
def dataLine (fields : List (String × Json)) : Time × String := (5, "data: " ++ (Json.obj fields).dumps)

def doneLine : Time × String := (9, "data: [DONE]")

def readJson (text : String) : Except String Json := (Json.loads text).elim (.error "Expecting value") .ok

@[simp] theorem readJson_dumps (v : Json) : readJson v.dumps = .ok v := by
  rw [readJson, Json.loads_dumps, Option.elim_some]

@[simp] theorem lineData_dataLine (fields : List (String × Json)) :
    lineData (dataLine fields).2 = some (Json.obj fields).dumps := by
  have htext : (dataLine fields).2.toList = ['d', 'a', 't', 'a', ':', ' '] ++ (Json.obj fields).dump := by
    have hdump : (Json.obj fields).dumps.toList = (Json.obj fields).dump := String.toList_ofList
    rw [dataLine, String.toList_append, hdump]
    rfl
  have hstrip : strip (' ' :: (Json.obj fields).dump) = (Json.obj fields).dump := by
    have hspace : isSpace ' ' = true := rfl
    have hopen : isSpace '\x7b' = false := rfl
    have hclose : isSpace '\x7d' = false := rfl
    simp [strip, Json.dump, hspace, hopen, hclose]
  rw [lineData, htext, if_pos (by rfl)]
  exact congrArg some (congrArg String.ofList hstrip)

@[simp] theorem dumps_ne_done (fields : List (String × Json)) : (Json.obj fields).dumps ≠ "[DONE]" := by
  intro h
  have hhead := congrArg (fun text : String => text.toList.head?) h
  rw [Json.dumps, String.toList_ofList, Json.dump] at hhead
  simp at hhead

@[simp] theorem lineData_doneLine : lineData doneLine.2 = some "[DONE]" := by decide +kernel

/-- one choice -/
def chatChunk (content finishReason : Json) : List (String × Json) :=
  [("choices", .arr [.obj [("delta", .obj [("role", .str "assistant"), ("content", content)]),
    ("finish_reason", finishReason)]])]

def roleChunk : List (String × Json) := chatChunk .null .null

def contentChunk : List (String × Json) := chatChunk (.str "Hi") .null

def finishChunk : List (String × Json) := chatChunk .null (.str "stop")

@[simp] theorem readDelta_roleChunk : readDelta (.obj roleChunk) = .ok ⟨"", none⟩ := by rfl

@[simp] theorem readDelta_contentChunk : readDelta (.obj contentChunk) = .ok ⟨"Hi", none⟩ := by rfl

@[simp] theorem readDelta_finishChunk : readDelta (.obj finishChunk) = .ok ⟨"", some "stop"⟩ := by rfl

def sampleReply (lines : List (Time × String)) : StreamReply := ⟨200, lines, none, 9⟩

/-- a role, a content, a blank line, a comment, a finish reason and the end -/
def fullReply : StreamReply :=
  sampleReply [dataLine roleChunk, dataLine contentChunk, (6, ""), (7, ": ping"), dataLine finishChunk, doneLine]

theorem dataLine_wellFormed {fields : List (String × Json)} {delta : StreamDelta}
    (h : readDelta (.obj fields) = .ok delta)
    {data : String} (hdata : lineData (dataLine fields).2 = some data) :
      ∃ delta, readJson data >>= readDelta = .ok delta := by
  rw [lineData_dataLine] at hdata
  obtain rfl := Option.some.inj hdata
  rw [readJson_dumps]
  exact ⟨delta, h⟩

theorem fullReply_wellFormed : WellFormed readJson fullReply.lines := by
  intro p hp data hdata hdone
  simp only [fullReply, sampleReply, List.mem_cons, List.not_mem_nil, or_false] at hp
  rcases hp with rfl | rfl | rfl | rfl | rfl | rfl
  · exact dataLine_wellFormed readDelta_roleChunk hdata
  · exact dataLine_wellFormed readDelta_contentChunk hdata
  · cases hdata
  · cases hdata
  · exact dataLine_wellFormed readDelta_finishChunk hdata
  · exact absurd (Option.some.inj (hdata.symm.trans lineData_doneLine)) hdone

theorem stream_contract_iff_full :
    let outcome := streamRequest {} readJson 1 .init (.ok fullReply)
    outcome.2 = .ok { VLLMBackend.init with requestStatus := VLLMBackend.init.requestStatus.set 1 .completed } ∧
      (StreamContract (upstreamText readJson fullReply.lines) outcome.1 ↔
        Terminated (carried readJson fullReply.lines)) :=
  stream_contract_iff {} readJson 1 fullReply (by decide) rfl fullReply_wellFormed .init

/-- the upstream ends after a content, without a finish reason -/
def unfinishedReply : StreamReply := sampleReply [dataLine contentChunk, doneLine]

/-- one finish reason and no content -/
def silentReply : StreamReply := sampleReply [dataLine roleChunk, dataLine finishChunk, doneLine]

/-! The loop over lines with an object, by what their deltas are -/

section
variable {fields : List (String × Json)} {delta : StreamDelta} (h : readDelta (.obj fields) = .ok delta)
  (requestId : UUID) (index : ℕ) (rest : List (Time × String))
include h

theorem streamLines_dataLine : streamLines readJson requestId index (dataLine fields :: rest) =
    if delta.carries then
      if delta.finishes then ([delta.chunk requestId index 5], .left (delta.next index))
      else
        let (chunks, ending) := streamLines readJson requestId (delta.next index) rest
        (delta.chunk requestId index 5 :: chunks, ending)
    else streamLines readJson requestId index rest := by
  have hline := lineData_dataLine fields
  rw [dataLine] at hline ⊢
  simp only [streamLines, hline, if_neg (dumps_ne_done fields), readJson_dumps]
  have hbind : (Except.ok (Json.obj fields) >>= readDelta : Except String StreamDelta) = .ok delta := h
  rw [hbind]

theorem streamLines_of_finishes (hfinishes : delta.finishes = true) :
    streamLines readJson requestId index (dataLine fields :: rest) =
      ([delta.chunk requestId index 5], .left (delta.next index)) := by
  rw [streamLines_dataLine h, if_pos (finishes_carries hfinishes), if_pos hfinishes]

theorem streamLines_of_carries (hcarries : delta.carries = true) (hfinishes : delta.finishes = false) :
    streamLines readJson requestId index (dataLine fields :: rest) =
      let (chunks, ending) := streamLines readJson requestId (delta.next index) rest
      (delta.chunk requestId index 5 :: chunks, ending) := by
  rw [streamLines_dataLine h, if_pos hcarries, if_neg (Bool.not_eq_true _ ▸ hfinishes)]

theorem streamLines_of_not_carries (hcarries : delta.carries = false) :
    streamLines readJson requestId index (dataLine fields :: rest) = streamLines readJson requestId index rest := by
  rw [streamLines_dataLine h, if_neg (Bool.not_eq_true _ ▸ hcarries)]

end

theorem streamLines_doneLine (requestId : UUID) (index : ℕ) (rest : List (Time × String)) :
    streamLines readJson requestId index (doneLine :: rest) = ([], .left index) := by
  have hline := lineData_doneLine
  rw [doneLine] at hline ⊢
  simp only [streamLines, hline, if_pos]

theorem streamRequest_left {lines : List (Time × String)} {chunks : List StreamChunk} {index : ℕ}
    (h : streamLines readJson 1 0 lines = (chunks, .left index)) :
    (streamRequest {} readJson 1 .init (.ok (sampleReply lines))).1 =
      if index = 0 then chunks ++ [closingChunk 1 9] else chunks := by
  simp only [streamRequest, sampleReply, if_neg (by decide : ¬400 ≤ 200), h, closeStream]

/-- no chunk carries a finish reason -/
example :
    WellFormed readJson unfinishedReply.lines ∧
      (streamRequest {} readJson 1 .init (.ok unfinishedReply)).1 =
        [{ requestId := 1, index := 0, deltaText := "Hi", finishReason := none, timestamp := 5, isFirst := true }] ∧
      ¬StreamContract (upstreamText readJson unfinishedReply.lines)
        (streamRequest {} readJson 1 .init (.ok unfinishedReply)).1 := by
  have hrun := streamLines_of_carries readDelta_contentChunk 1 0 [doneLine] (by decide) (by decide)
  rw [streamLines_doneLine] at hrun
  have hchunks : (streamRequest {} readJson 1 .init (.ok unfinishedReply)).1 =
      [{ requestId := 1, index := 0, deltaText := "Hi", finishReason := none, timestamp := 5, isFirst := true }] :=
    (streamRequest_left hrun).trans (by decide)
  refine ⟨?_, hchunks, fun h => ?_⟩
  · intro p hp data hdata hdone
    simp only [unfinishedReply, sampleReply, List.mem_cons, List.not_mem_nil, or_false] at hp
    rcases hp with rfl | rfl
    · exact dataLine_wellFormed readDelta_contentChunk hdata
    · exact absurd (Option.some.inj (hdata.symm.trans lineData_doneLine)) hdone
  · rw [hchunks] at h
    exact absurd ((h.last 0 _ rfl).2 rfl) (by decide)

/-- the finish reason is yielded, and the stream closed again under the same index -/
theorem stream_without_content :
    WellFormed readJson silentReply.lines ∧
      (streamRequest {} readJson 1 .init (.ok silentReply)).1 =
        [{ requestId := 1, index := 0, deltaText := "", finishReason := some "stop", timestamp := 5, isFirst := false },
          { requestId := 1, index := 0, deltaText := "", finishReason := some "stop", timestamp := 9,
            isFirst := true }] ∧
      ¬StreamContract (upstreamText readJson silentReply.lines)
        (streamRequest {} readJson 1 .init (.ok silentReply)).1 := by
  have hrun := streamLines_of_not_carries readDelta_roleChunk 1 0 [dataLine finishChunk, doneLine] (by decide)
  rw [streamLines_of_finishes readDelta_finishChunk 1 0 [doneLine] (by decide)] at hrun
  have hchunks : (streamRequest {} readJson 1 .init (.ok silentReply)).1 =
      [{ requestId := 1, index := 0, deltaText := "", finishReason := some "stop", timestamp := 5, isFirst := false },
        { requestId := 1, index := 0, deltaText := "", finishReason := some "stop", timestamp := 9,
          isFirst := true }] :=
    (streamRequest_left hrun).trans (by decide)
  refine ⟨?_, hchunks, fun h => ?_⟩
  · intro p hp data hdata hdone
    simp only [silentReply, sampleReply, List.mem_cons, List.not_mem_nil, or_false] at hp
    rcases hp with rfl | rfl | rfl
    · exact dataLine_wellFormed readDelta_roleChunk hdata
    · exact dataLine_wellFormed readDelta_finishChunk hdata
    · exact absurd (Option.some.inj (hdata.symm.trans lineData_doneLine)) hdone
  · rw [hchunks] at h
    exact absurd h.indices (by decide)

end InferencePlatform.Adapter
