/-
Server-sent events: frames of one data line, and a client that splits a text into frames at blank lines.

- `decode_frames`: the client gets back the data of the frames that were sent, in their order, when no data holds a line
  break;
- `beforeMark`: the data a client uses, up to the first that is a given mark.
-/
import Mathlib.Tactic

namespace InferencePlatform.Core.EventStream

def dataField : List Char := "data: ".toList

def frame (data : String) : String := "data: " ++ data ++ "\n\n"

/-- the blocks of a text that a blank line ends, and what is left at its end; `block` is what has been read of the
first -/
def blocks : List Char → List Char → List (List Char)
  | block, '\n' :: '\n' :: rest => block.reverse :: blocks [] rest
  | block, c :: rest => blocks (c :: block) rest
  | block, [] => if block.isEmpty then [] else [block.reverse]

/-- the data of a block of one data line -/
def dataOf (block : List Char) : Option String :=
  if dataField.isPrefixOf block then some (String.ofList (block.drop dataField.length)) else none

def decode (text : String) : List String := (blocks [] text.toList).filterMap dataOf

/-- the data a client uses of a stream that `mark` closes -/
def beforeMark (mark : String) (text : String) : List String := (decode text).takeWhile fun data => data ≠ mark

example : beforeMark "end" (frame "a" ++ "other\n\n" ++ frame "b c" ++ frame "end" ++ frame "d") = ["a", "b c"] := by
  decide +kernel

/-! ## Sent and received -/

theorem blocks_line {line : List Char} (h : '\n' ∉ line) (block rest : List Char) :
    blocks block (line ++ '\n' :: '\n' :: rest) = (block.reverse ++ line) :: blocks [] rest := by
  induction line generalizing block with
  | nil => simp [blocks]
  | cons c line ih =>
    have hc : c ≠ '\n' := fun hc => h (hc ▸ List.mem_cons_self)
    have hline : '\n' ∉ line := fun hmem => h (List.mem_cons_of_mem c hmem)
    have hstep : blocks block (c :: line ++ '\n' :: '\n' :: rest) =
        blocks (c :: block) (line ++ '\n' :: '\n' :: rest) := by
      rw [List.cons_append, blocks]
      intro rest' hbreak
      exact absurd hbreak hc
    rw [hstep, ih hline, List.reverse_cons, List.append_assoc, List.singleton_append]

theorem dataOf_frame (data : String) : dataOf (dataField ++ data.toList) = some data := by
  rw [dataOf, if_pos (List.isPrefixOf_iff_prefix.2 (List.prefix_append _ _)), List.drop_left, String.ofList_toList]

theorem toList_frame (data : String) : (frame data).toList = dataField ++ data.toList ++ ['\n', '\n'] := by
  rw [frame, String.toList_append, String.toList_append]
  rfl

theorem decode_frame_append {data : String} (h : '\n' ∉ data.toList) (text : String) :
    decode (frame data ++ text) = data :: decode text := by
  have hfield : '\n' ∉ dataField := by decide
  have hline : '\n' ∉ dataField ++ data.toList := fun hmem => (List.mem_append.1 hmem).elim hfield h
  have hblocks : blocks [] (frame data ++ text).toList = (dataField ++ data.toList) :: blocks [] text.toList := by
    rw [String.toList_append, toList_frame, List.append_assoc]
    exact blocks_line hline [] text.toList
  rw [decode, hblocks, List.filterMap_cons, dataOf_frame]
  rfl

/-- the client reads what was sent -/
theorem decode_frames {datas : List String} (h : ∀ data ∈ datas, '\n' ∉ data.toList) :
    decode (String.join (datas.map frame)) = datas := by
  induction datas with
  | nil => rfl
  | cons data datas ih =>
    rw [List.map_cons, String.join_cons, decode_frame_append (h data List.mem_cons_self)]
    exact congrArg (data :: ·) (ih fun data' hdata' => h data' (List.mem_cons_of_mem _ hdata'))

/-- the mark itself and what comes after it are not read -/
theorem beforeMark_frames {mark : String} {datas rest : List String} (hmark : mark ∉ datas)
    (h : ∀ data ∈ datas ++ mark :: rest, '\n' ∉ data.toList) :
    beforeMark mark (String.join ((datas ++ mark :: rest).map frame)) = datas := by
  have hall : ∀ data ∈ datas, decide (data ≠ mark) = true := fun data hdata =>
    decide_eq_true fun heq => hmark (heq ▸ hdata)
  rw [beforeMark, decode_frames h, List.takeWhile_append_of_pos hall]
  simp

end InferencePlatform.Core.EventStream
