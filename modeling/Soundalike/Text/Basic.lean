set_option autoImplicit false

/-!
# Text

Text is a list of characters throughout the library, so that every rule below is said by recursion
on its data.  This module cuts a list at separators and puts the pieces together again.  Empty
pieces are kept, so a list with `n` separators has `n + 1` pieces, and `join_split` and `split_join`
say that the two operations undo each other.

A line ends at a newline, and one carriage return directly before that newline belongs to the
ending.  What follows the last newline is a line only if it is not empty, and it keeps a carriage
return at its end.  White space is the Unicode property *White_Space*: a text is trimmed of it at
both ends, and its words are the non-empty pieces between it.

Pieces and lines are generic in the element, because names on standard input are cut into lines
while they are still bytes.
-/

namespace Soundalike

/-- A text is its list of characters. -/
abbrev Text := List Char

namespace Text

variable {α : Type}

/-- Cuts a list at every element that satisfies `p`; the pieces between may be empty. -/
def splitWhere (p : α → Bool) : List α → List (List α)
  | [] => [[]]
  | x :: xs =>
    if p x then [] :: splitWhere p xs else (splitWhere p xs).modifyHead (x :: ·)

/-- Cuts a list at every `separator`. -/
def split [DecidableEq α] (separator : α) (xs : List α) : List (List α) :=
  splitWhere (· = separator) xs

/-- Puts pieces together with one `separator` between neighbours. -/
def join (separator : α) : List (List α) → List α
  | [] => []
  | [piece] => piece
  | piece :: next :: pieces => piece ++ separator :: join separator (next :: pieces)

/-! ## The pieces of a list -/

theorem splitWhere_ne_nil (p : α → Bool) (xs : List α) : splitWhere p xs ≠ [] := by
  cases xs with
  | nil => simp [splitWhere]
  | cons x xs =>
    unfold splitWhere
    split
    · simp
    · have ih := splitWhere_ne_nil p xs
      cases h : splitWhere p xs with
      | nil => exact absurd h ih
      | cons piece pieces => simp [List.modifyHead]

theorem split_ne_nil [DecidableEq α] (separator : α) (xs : List α) : split separator xs ≠ [] :=
  splitWhere_ne_nil _ xs

/-- No piece holds an element at which the list is cut. -/
theorem eq_false_of_mem_splitWhere {p : α → Bool} {xs piece : List α} {x : α}
    (hpiece : piece ∈ splitWhere p xs) (hx : x ∈ piece) : p x = false := by
  induction xs generalizing piece with
  | nil => simp_all [splitWhere]
  | cons y ys ih =>
    unfold splitWhere at hpiece
    split at hpiece
    · rcases List.mem_cons.1 hpiece with rfl | h
      · simp at hx
      · exact ih h hx
    · rename_i hy
      cases h : splitWhere p ys with
      | nil => exact absurd h (splitWhere_ne_nil p ys)
      | cons first rest =>
        rw [h, List.modifyHead_cons] at hpiece
        rcases List.mem_cons.1 hpiece with rfl | hrest
        · rcases List.mem_cons.1 hx with rfl | hfirst
          · simpa using hy
          · exact ih (h ▸ List.mem_cons_self) hfirst
        · exact ih (h ▸ List.mem_cons_of_mem _ hrest) hx

/-- The separator occurs in no piece. -/
theorem not_mem_of_mem_split [DecidableEq α] {separator : α} {xs piece : List α}
    (h : piece ∈ split separator xs) : separator ∉ piece := fun hs => by
  simpa using eq_false_of_mem_splitWhere h hs

/-- There is one piece more than there are separators. -/
theorem length_split [DecidableEq α] (separator : α) (xs : List α) :
    (split separator xs).length = xs.count separator + 1 := by
  unfold split
  induction xs with
  | nil => simp [splitWhere]
  | cons x xs ih =>
    by_cases h : x = separator <;> simp [splitWhere, h, ih]

theorem join_cons_cons (separator x : α) (piece : List α) (pieces : List (List α)) :
    join separator ((x :: piece) :: pieces) = x :: join separator (piece :: pieces) := by
  cases pieces <;> simp [join]

/-- Joining the pieces gives the list back. -/
theorem join_split [DecidableEq α] (separator : α) (xs : List α) :
    join separator (split separator xs) = xs := by
  unfold split
  induction xs with
  | nil => rfl
  | cons x xs ih =>
    unfold splitWhere
    cases h : splitWhere (fun y => decide (y = separator)) xs with
    | nil => exact absurd h (splitWhere_ne_nil _ xs)
    | cons piece pieces =>
      rw [h] at ih
      by_cases hx : x = separator
      · simp [hx, join, ih]
      · simp [hx, join_cons_cons, ih]

theorem split_append_cons [DecidableEq α] {separator : α} {piece : List α}
    (h : separator ∉ piece) (xs : List α) :
    split separator (piece ++ separator :: xs) = piece :: split separator xs := by
  unfold split
  induction piece with
  | nil => simp [splitWhere]
  | cons x piece ih =>
    have hx : x ≠ separator := fun e => h (e ▸ List.mem_cons_self)
    have hp : separator ∉ piece := fun e => h (List.mem_cons_of_mem _ e)
    simp [splitWhere, hx, ih hp]

theorem split_eq_singleton [DecidableEq α] {separator : α} {piece : List α}
    (h : separator ∉ piece) : split separator piece = [piece] := by
  unfold split
  induction piece with
  | nil => rfl
  | cons x piece ih =>
    have hx : x ≠ separator := fun e => h (e ▸ List.mem_cons_self)
    have hp : separator ∉ piece := fun e => h (List.mem_cons_of_mem _ e)
    simp [splitWhere, hx, ih hp]

/-- Pieces without the separator are found again; only the empty list of pieces is lost, since it
reads like one empty piece. -/
theorem split_join [DecidableEq α] {separator : α} {pieces : List (List α)} (hne : pieces ≠ [])
    (h : ∀ piece ∈ pieces, separator ∉ piece) :
    split separator (join separator pieces) = pieces := by
  induction pieces with
  | nil => exact absurd rfl hne
  | cons piece rest ih =>
    have hp := h piece List.mem_cons_self
    cases rest with
    | nil => exact split_eq_singleton hp
    | cons next rest =>
      rw [join, split_append_cons hp,
        ih (by simp) fun q hq => h q (List.mem_cons_of_mem _ hq)]

/-! ## Lines -/

section

variable [DecidableEq α]

/-- Removes one carriage return from the end of a piece. -/
def dropReturn (carriage : α) (piece : List α) : List α :=
  if piece.getLast? = some carriage then piece.dropLast else piece

/-- The lines among the pieces between newlines: all but the last piece had a newline after it. -/
def linesOfPieces (carriage : α) : List (List α) → List (List α)
  | [] => []
  | [last] => if last = [] then [] else [last]
  | piece :: next :: pieces => dropReturn carriage piece :: linesOfPieces carriage (next :: pieces)

/-- The lines of a list, without their endings. -/
def lines (newline carriage : α) (xs : List α) : List (List α) :=
  linesOfPieces carriage (split newline xs)

/-- The lines of a text. -/
def textLines (text : Text) : List Text := lines '\n' '\r' text

/-- Writes lines, each ended by a newline. -/
def unlines (pieces : List Text) : Text := pieces.flatMap (· ++ ['\n'])

/-! ## Lines of a concatenation -/

@[simp] theorem lines_nil (newline carriage : α) : lines newline carriage [] = [] := rfl

/-- The first newline ends the first line. -/
theorem lines_append_cons {newline : α} (carriage : α) {piece : List α} (h : newline ∉ piece)
    (xs : List α) :
    lines newline carriage (piece ++ newline :: xs) =
      dropReturn carriage piece :: lines newline carriage xs := by
  unfold lines
  rw [split_append_cons h]
  cases hs : split newline xs with
  | nil => exact absurd hs (split_ne_nil newline xs)
  | cons next pieces => rfl

/-- Without a newline there is one line, or none if there is no text. -/
theorem lines_of_not_mem {newline : α} (carriage : α) {piece : List α} (h : newline ∉ piece) :
    lines newline carriage piece = if piece = [] then [] else [piece] := by
  rw [lines, split_eq_singleton h, linesOfPieces]

end

/-! ## White space -/

/-- The Unicode property *White_Space*. -/
def isWhiteSpace (c : Char) : Bool :=
  let n := c.toNat
  (0x09 ≤ n && n ≤ 0x0D) || n == 0x20 || n == 0x85 || n == 0xA0 || n == 0x1680 ||
    (0x2000 ≤ n && n ≤ 0x200A) || n == 0x2028 || n == 0x2029 || n == 0x202F || n == 0x205F ||
    n == 0x3000

/-- A text without the white space at its start. -/
def trimStart (text : Text) : Text := text.dropWhile isWhiteSpace

/-- A text without the white space at its end. -/
def trimEnd (text : Text) : Text := (text.reverse.dropWhile isWhiteSpace).reverse

/-- A text without the white space at its two ends. -/
def trim (text : Text) : Text := trimEnd (trimStart text)

/-- The words of a text: its non-empty pieces between white space. -/
def words (text : Text) : List Text := (splitWhere isWhiteSpace text).filter (· ≠ [])

/-- A word is not empty and holds no white space. -/
theorem of_mem_words {text word : Text} (h : word ∈ words text) :
    word ≠ [] ∧ ∀ c ∈ word, isWhiteSpace c = false := by
  obtain ⟨hpiece, hne⟩ := List.mem_filter.1 h
  exact ⟨by simpa using hne, fun c hc => eq_false_of_mem_splitWhere hpiece hc⟩

end Text

end Soundalike
