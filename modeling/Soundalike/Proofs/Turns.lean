import Mathlib.Data.List.Basic
import Soundalike.Proofs.Moments

set_option autoImplicit false

/-!
# The turns of a run

A run is a loop.  Its cursor holds how many letters are consumed, the first letter of the piece that
was consumed last, and the live branches; a turn consumes a piece and moves the cursor behind it.
Since no piece is empty, the loop gets on with every turn, and since a piece is always what stands
at the cursor, it never gets past the end.  The loop takes the same turns whichever alternatives are
followed (`reaches_turns`), and the pieces of its turns make up the letters (`consumed_append`).
-/

namespace Soundalike

/-- A turn of a run: the piece that is consumed, and the number of letters before it. -/
structure Turn where
  /-- the number of letters before the piece -/
  position : Nat
  /-- the piece -/
  piece : Piece
  deriving DecidableEq

namespace Turn

/-- The turns that consume pieces, of which the first stands at `position`. -/
def placeFrom (position : Nat) : List Piece → List Turn
  | [] => []
  | piece :: rest => ⟨position, piece⟩ :: placeFrom (position + piece.letters.length) rest

/-- The letters that turns consume. -/
def consumed (turns : List Turn) : Text := turns.flatMap fun turn => turn.piece.letters

/-- The rules that apply in turns. -/
def steps (turns : List Turn) : List Step := Piece.steps (turns.map piece)

theorem consumed_cons (turn : Turn) (turns : List Turn) :
    consumed (turn :: turns) = turn.piece.letters ++ consumed turns :=
  List.flatMap_cons

theorem steps_cons (turn : Turn) (turns : List Turn) :
    steps (turn :: turns) = Piece.steps [turn.piece] ++ steps turns :=
  List.filterMap_append (l := [turn.piece])

end Turn

/-- What a run holds between two turns. -/
structure Cursor where
  /-- the number of letters that are consumed -/
  position : Nat
  /-- the first letter of the piece that was consumed last, if one was -/
  previous : Option Char
  /-- the live branches -/
  live : List Branch

namespace Cursor

/-- The cursor at the start of a name. -/
def start : Cursor := ⟨0, none, [.empty]⟩

variable (table : RuleTable) (choice : Choice) (letters : Text)

/-- One turn of the loop, from a cursor to the next. -/
inductive Moves : Cursor → Turn → Cursor → Prop
  /-- where no rule matches, a letter is skipped -/
  | skip {cursor : Cursor} {letter : Char} {rest : Text}
      (hahead : letters.drop cursor.position = letter :: rest)
      (hnone : table.find? (letter :: rest) = none) :
      Moves cursor ⟨cursor.position, .skipped letter⟩
        ⟨cursor.position + 1, some letter, cursor.live⟩
  /-- where a rule matches, it is applied to the live branches -/
  | apply {cursor : Cursor} {letter : Char} {rest : Text} {rule : Rule} {step : Step}
      (hahead : letters.drop cursor.position = letter :: rest)
      (hsome : table.find? (letter :: rest) = some rule)
      (hstep : step = ⟨cursor.position, rule,
        rule.alternatives (letter :: rest) cursor.previous.isNone,
        isForced cursor.previous letter⟩) :
      Moves cursor ⟨cursor.position, .matched step⟩
        ⟨cursor.position + rule.length, some letter, step.advance choice cursor.live⟩

/-- Any number of turns, one after the other. -/
inductive Reaches : Cursor → List Turn → Cursor → Prop
  | refl (cursor : Cursor) : Reaches cursor [] cursor
  | cons {cursor next last : Cursor} {turn : Turn} {turns : List Turn}
      (first : Moves table choice letters cursor turn next) (rest : Reaches next turns last) :
      Reaches cursor (turn :: turns) last

/-- A cursor remembers a letter exactly if it is not at the start any more. -/
def KnowsStart (cursor : Cursor) : Prop := cursor.previous = none ↔ cursor.position = 0

end Cursor

/-- The field of a rule that belongs to a position among letters: at the start of the word, right
before a vowel, or elsewhere. -/
def Rule.alternativesAt (rule : Rule) (letters : Text) (position : Nat) : Alternatives :=
  if position = 0 then rule.atStart
  else
    match letters[position + rule.length]? with
    | none => rule.elsewhere
    | some next => if next ∈ ['a', 'e', 'i', 'o', 'u'] then rule.beforeVowel else rule.elsewhere

/-- A turn does what its position asks for: it skips the letter that stands there if no rule
matches, and otherwise applies the rule that is found there by the field of that position. -/
def Turn.Suits (table : RuleTable) (letters : Text) (turn : Turn) : Prop :=
  match turn.piece with
  | .skipped letter =>
    letters[turn.position]? = some letter ∧ table.find? (letters.drop turn.position) = none
  | .matched step =>
    step.position = turn.position ∧ table.find? (letters.drop turn.position) = some step.rule ∧
      step.alternatives = step.rule.alternativesAt letters turn.position

/-- The turns of a name. -/
def Encoder.turns (encoder : Encoder) (name : Text) : List Turn :=
  Turn.placeFrom 0 (encoder.pieces name)

/-- The first of the letters ahead stands at the position of the cursor. -/
theorem getElem?_of_drop {letters rest : Text} {letter : Char} {position : Nat}
    (hahead : letters.drop position = letter :: rest) : letters[position]? = some letter := by
  rw [← List.head?_drop, hahead, List.head?_cons]

theorem Letter.isVowel_iff {c : Char} : isVowel c = true ↔ c ∈ ['a', 'e', 'i', 'o', 'u'] := by
  simp [isVowel, or_assoc]

theorem Rule.alternatives_drop (rule : Rule) {letters : Text} {position : Nat} {atWordStart : Bool}
    (hstart : atWordStart = true ↔ position = 0) :
    rule.alternatives (letters.drop position) atWordStart =
      rule.alternativesAt letters position := by
  rw [alternatives, alternativesAt, List.getElem?_drop]
  refine if_congr hstart rfl ?_
  cases letters[position + rule.length]? with
  | none => rfl
  | some next => exact if_congr Letter.isVowel_iff rfl rfl

theorem Piece.length_letters_pos (piece : Piece) : 0 < piece.letters.length := by
  cases piece with
  | skipped letter => exact Nat.one_pos
  | matched step => exact step.rule.length_pos

/-! ## One turn -/

namespace Cursor.Moves

variable {table : RuleTable} {choice : Choice} {letters : Text} {cursor next : Cursor} {turn : Turn}

theorem turn_position (h : Moves table choice letters cursor turn next) :
    turn.position = cursor.position := by
  cases h <;> rfl

theorem next_live (h : Moves table choice letters cursor turn next) :
    next.live = liveAfter choice (Piece.steps [turn.piece]) cursor.live := by
  cases h <;> rfl

/-- The piece of a turn is what stands at the cursor, and the next cursor stands behind it. -/
theorem letters_append (h : Moves table choice letters cursor turn next) :
    turn.piece.letters ++ letters.drop next.position = letters.drop cursor.position := by
  cases h with
  | skip hahead hnone =>
    rw [← List.drop_drop, hahead]
    rfl
  | apply hahead hsome hstep =>
    have hmatch := Rule.matchesAt_iff.mp (RuleTable.matchesAt_of_find? hsome)
    rw [← List.drop_drop, hahead, hstep]
    exact List.prefix_iff_eq_append.mp hmatch

theorem next_position (h : Moves table choice letters cursor turn next) :
    next.position = cursor.position + turn.piece.letters.length := by
  cases h with
  | skip hahead hnone => rfl
  | apply hahead hsome hstep =>
    rw [hstep]
    rfl

/-- A turn gets on. -/
theorem position_lt_next (h : Moves table choice letters cursor turn next) :
    cursor.position < next.position := by
  have := turn.piece.length_letters_pos
  rw [h.next_position]
  omega

/-- A turn is taken before the end only. -/
theorem position_lt_length (h : Moves table choice letters cursor turn next) :
    cursor.position < letters.length := by
  by_contra hend
  have hnil : letters.drop cursor.position = [] := List.drop_eq_nil_of_le (Nat.le_of_not_lt hend)
  cases h with
  | skip hahead hnone => simp [hnil] at hahead
  | apply hahead hsome hstep => simp [hnil] at hahead

/-- The cursor remembers the letter at the position of the last turn. -/
theorem next_previous (h : Moves table choice letters cursor turn next) :
    next.previous = letters[turn.position]? := by
  cases h with
  | skip hahead hnone => exact (getElem?_of_drop hahead).symm
  | apply hahead hsome hstep => exact (getElem?_of_drop hahead).symm

theorem knowsStart_next (h : Moves table choice letters cursor turn next) : next.KnowsStart := by
  have hpast : next.position ≠ 0 := Nat.ne_of_gt (Nat.zero_lt_of_lt h.position_lt_next)
  have hknown : next.previous ≠ none := by
    cases h with
    | skip hahead hnone => exact Option.some_ne_none _
    | apply hahead hsome hstep => exact Option.some_ne_none _
  exact iff_of_false hknown hpast

theorem suits (h : Moves table choice letters cursor turn next) (hstart : cursor.KnowsStart) :
    turn.Suits table letters := by
  cases h with
  | skip hahead hnone => exact ⟨getElem?_of_drop hahead, hahead ▸ hnone⟩
  | @apply letter rest rule step hahead hsome hstep =>
    subst hstep
    refine ⟨rfl, hahead ▸ hsome, ?_⟩
    rw [← hahead]
    exact rule.alternatives_drop (Option.isNone_iff_eq_none.trans hstart)

/-- There is one turn at most from a cursor. -/
theorem unique {other : Cursor} {otherTurn : Turn} (h : Moves table choice letters cursor turn next)
    (h' : Moves table choice letters cursor otherTurn other) : turn = otherTurn ∧ next = other := by
  cases h with
  | skip hahead hnone =>
    cases h' with
    | skip hahead' hnone' =>
      obtain ⟨rfl, -⟩ := List.cons.inj (hahead.symm.trans hahead')
      exact ⟨rfl, rfl⟩
    | apply hahead' hsome' hstep' =>
      rw [← hahead, hahead', hsome'] at hnone
      cases hnone
  | apply hahead hsome hstep =>
    cases h' with
    | skip hahead' hnone' =>
      rw [← hahead, hahead', hnone'] at hsome
      cases hsome
    | apply hahead' hsome' hstep' =>
      obtain ⟨rfl, rfl⟩ := List.cons.inj (hahead.symm.trans hahead')
      obtain rfl := Option.some.inj (hsome.symm.trans hsome')
      subst hstep hstep'
      exact ⟨rfl, rfl⟩

end Cursor.Moves

/-! ## Any number of turns -/

namespace Cursor.Reaches

variable {table : RuleTable} {choice : Choice} {letters : Text} {cursor last : Cursor}
  {turns : List Turn}

/-- What is consumed and what is still ahead make up what was ahead before. -/
theorem consumed_append (h : Reaches table choice letters cursor turns last) :
    Turn.consumed turns ++ letters.drop last.position = letters.drop cursor.position := by
  induction h with
  | refl cursor => rfl
  | cons first rest ih =>
    rw [Turn.consumed_cons, List.append_assoc, ih, first.letters_append]

theorem last_position (h : Reaches table choice letters cursor turns last) :
    last.position = cursor.position + (Turn.consumed turns).length := by
  induction h with
  | refl cursor => rfl
  | cons first rest ih =>
    rw [ih, first.next_position, Turn.consumed_cons, List.length_append, Nat.add_assoc]

theorem last_live (h : Reaches table choice letters cursor turns last) :
    last.live = liveAfter choice (Turn.steps turns) cursor.live := by
  induction h with
  | refl cursor => rfl
  | cons first rest ih => rw [ih, first.next_live, Turn.steps_cons, liveAfter_append]

/-- The cursor stays within the letters. -/
theorem last_position_le (h : Reaches table choice letters cursor turns last)
    (hcursor : cursor.position ≤ letters.length) : last.position ≤ letters.length := by
  have hlength := congrArg List.length h.consumed_append
  rw [List.length_append, List.length_drop, List.length_drop] at hlength
  have := h.last_position
  omega

/-- Turns can be cut in two anywhere. -/
theorem split {before after : List Turn}
    (h : Reaches table choice letters cursor (before ++ after) last) :
    ∃ middle, Reaches table choice letters cursor before middle ∧
      Reaches table choice letters middle after last := by
  induction before generalizing cursor with
  | nil => exact ⟨cursor, .refl cursor, h⟩
  | cons turn before ih =>
    cases h with
    | cons first rest =>
      obtain ⟨middle, hbefore, hafter⟩ := ih rest
      exact ⟨middle, .cons first hbefore, hafter⟩

/-- The turns that lead to the end begin with any others from the same cursor. -/
theorem isPrefix_of_end {middle : Cursor} {taken : List Turn}
    (h : Reaches table choice letters cursor taken middle)
    (hall : Reaches table choice letters cursor turns last)
    (hend : letters.length ≤ last.position) : taken <+: turns := by
  induction h generalizing turns with
  | refl cursor => exact List.nil_prefix
  | cons first rest ih =>
    cases hall with
    | refl => exact absurd first.position_lt_length (Nat.not_lt_of_le hend)
    | cons first' rest' =>
      obtain ⟨rfl, rfl⟩ := first.unique first'
      exact List.cons_prefix_cons.mpr ⟨rfl, ih rest'⟩

theorem knowsStart_last (h : Reaches table choice letters cursor turns last)
    (hstart : cursor.KnowsStart) : last.KnowsStart := by
  induction h with
  | refl cursor => exact hstart
  | cons first rest ih => exact ih first.knowsStart_next

/-- A turn among others is one from the cursor that the turns before it lead to. -/
theorem exists_moves {before after : List Turn} {turn : Turn}
    (h : Reaches table choice letters cursor (before ++ turn :: after) last) :
    ∃ middle next, Reaches table choice letters cursor before middle ∧
      Moves table choice letters middle turn next := by
  obtain ⟨middle, hbefore, hafter⟩ := h.split
  cases hafter with
  | cons first rest => exact ⟨middle, _, hbefore, first⟩

theorem suits_of_mem (h : Reaches table choice letters cursor turns last)
    (hstart : cursor.KnowsStart) {turn : Turn} (hturn : turn ∈ turns) :
    turn.Suits table letters := by
  obtain ⟨before, after, rfl⟩ := List.append_of_mem hturn
  obtain ⟨middle, next, hbefore, hmove⟩ := h.exists_moves
  exact hmove.suits (hbefore.knowsStart_last hstart)

/-- A turn stands behind what the turns before it consume, and before the end. -/
theorem position_of_split {before after : List Turn} {turn : Turn}
    (h : Reaches table choice letters cursor (before ++ turn :: after) last) :
    turn.position = cursor.position + (Turn.consumed before).length ∧
      turn.position < letters.length := by
  obtain ⟨middle, next, hbefore, hmove⟩ := h.exists_moves
  rw [hmove.turn_position]
  exact ⟨hbefore.last_position, hmove.position_lt_length⟩

theorem position_le_of_mem (h : Reaches table choice letters cursor turns last) {turn : Turn}
    (hturn : turn ∈ turns) : cursor.position ≤ turn.position := by
  obtain ⟨before, after, rfl⟩ := List.append_of_mem hturn
  rw [h.position_of_split.left]
  exact Nat.le_add_right _ _

/-- The loop gets on from turn to turn. -/
theorem pairwise_position (h : Reaches table choice letters cursor turns last) :
    turns.Pairwise fun earlier later => earlier.position < later.position := by
  induction h with
  | refl cursor => exact List.Pairwise.nil
  | cons first rest ih =>
    refine List.pairwise_cons.mpr ⟨?_, ih⟩
    intro later hlater
    rw [first.turn_position]
    exact Nat.lt_of_lt_of_le first.position_lt_next (rest.position_le_of_mem hlater)

end Cursor.Reaches

/-- From a cursor the loop takes the turns that consume the pieces ahead, and comes to the end. -/
theorem Cursor.reaches_end (table : RuleTable) (choice : Choice) {letters ahead : Text}
    {position : Nat} (previous : Option Char) (live : List Branch)
    (hahead : letters.drop position = ahead) :
    ∃ last, Reaches table choice letters ⟨position, previous, live⟩
        (Turn.placeFrom position (table.piecesFrom position previous ahead)) last ∧
      letters.length ≤ last.position := by
  fun_induction RuleTable.piecesFrom table position previous ahead generalizing live with
  | case1 position previous =>
    exact ⟨_, .refl _, List.drop_eq_nil_iff.mp hahead⟩
  | case2 position previous letter rest hnone ih =>
    have hrest : letters.drop (position + 1) = rest := by rw [← List.drop_drop, hahead]; rfl
    obtain ⟨last, hreaches, hend⟩ := ih live hrest
    exact ⟨last, .cons (.skip hahead hnone) hreaches, hend⟩
  | case3 position previous letter rest rule hsome ih =>
    have hrest : letters.drop (position + rule.length) = rest.drop (rule.length - 1) := by
      rw [← List.drop_drop, hahead, RuleTable.drop_length_cons]
    obtain ⟨last, hreaches, hend⟩ := ih _ hrest
    exact ⟨last, .cons (.apply hahead hsome rfl) hreaches, hend⟩

/-! ## The turns of a name -/

namespace Turn

theorem map_piece_placeFrom (position : Nat) (pieces : List Piece) :
    (placeFrom position pieces).map piece = pieces := by
  induction pieces generalizing position with
  | nil => rfl
  | cons piece rest ih => rw [placeFrom, List.map_cons, ih]

/-- Every turn consumes a letter. -/
theorem length_le_length_consumed (turns : List Turn) :
    turns.length ≤ (consumed turns).length := by
  induction turns with
  | nil => exact Nat.le_refl 0
  | cons turn rest ih =>
    have := turn.piece.length_letters_pos
    rw [consumed_cons, List.length_append, List.length_cons]
    omega

end Turn

namespace Encoder

variable (encoder : Encoder) (name : Text)

theorem steps_turns : Turn.steps (encoder.turns name) = encoder.steps name := by
  rw [Turn.steps, turns, Turn.map_piece_placeFrom]
  rfl

/-- The turns of a name are those of the loop over its letters. -/
theorem reaches_turns (choice : Choice) :
    ∃ last, Cursor.Reaches encoder.rules.table choice (encoder.cleanup name) .start
        (encoder.turns name) last ∧
      last.position = (encoder.cleanup name).length := by
  have hahead : (encoder.cleanup name).drop 0 = encoder.cleanup name := List.drop_zero
  obtain ⟨last, hreaches, hend⟩ :=
    Cursor.reaches_end encoder.rules.table choice none [.empty] hahead
  have hwithin := hreaches.last_position_le (Nat.zero_le _)
  exact ⟨last, hreaches, Nat.le_antisymm hwithin hend⟩

/-- A run is a loop that takes the turns of the name, whichever alternatives are followed: any
number of turns are a beginning of these, and after all of them the cursor is at the end and its
branches have the codes of the run.  The pieces of the turns make up the letters, so each stands
where those before it end, further on than they do and before the end; and there are no more turns
than letters.  Every turn suits its position. -/
theorem turns_cover :
    (∀ choice, ∃ last,
      Cursor.Reaches encoder.rules.table choice (encoder.cleanup name) .start
        (encoder.turns name) last ∧
      last.position = (encoder.cleanup name).length ∧
      distinct (last.live.map (·.finish.code)) = encoder.run choice name ∧
      ∀ turns cursor,
        Cursor.Reaches encoder.rules.table choice (encoder.cleanup name) .start turns cursor →
          turns <+: encoder.turns name) ∧
    Turn.consumed (encoder.turns name) = encoder.cleanup name ∧
    (encoder.turns name).length ≤ (encoder.cleanup name).length ∧
    (encoder.turns name).Pairwise (fun earlier later => earlier.position < later.position) ∧
    (∀ before turn after, encoder.turns name = before ++ turn :: after →
      turn.position = (Turn.consumed before).length ∧
        turn.position < (encoder.cleanup name).length) ∧
    ∀ turn ∈ encoder.turns name, turn.Suits encoder.rules.table (encoder.cleanup name) := by
  obtain ⟨last, hreaches, hend⟩ := encoder.reaches_turns name .every
  have hcover : Turn.consumed (encoder.turns name) = encoder.cleanup name := by
    have hall := hreaches.consumed_append
    rwa [hend, List.drop_length, List.append_nil] at hall
  have hcount := Turn.length_le_length_consumed (encoder.turns name)
  refine ⟨?_, hcover, hcover ▸ hcount, hreaches.pairwise_position, ?_, ?_⟩
  · -- the turns do not depend on the choice, only the branches that they lead to do
    intro choice
    obtain ⟨last, hreaches, hend⟩ := encoder.reaches_turns name choice
    refine ⟨last, hreaches, hend, ?_, ?_⟩
    · rw [hreaches.last_live, steps_turns, run]
      rfl
    · intro turns cursor htaken
      exact htaken.isPrefix_of_end hreaches (Nat.le_of_eq hend.symm)
  · intro before turn after hsplit
    rw [hsplit] at hreaches
    obtain ⟨hposition, hlt⟩ := hreaches.position_of_split
    exact ⟨hposition.trans (Nat.zero_add _), hlt⟩
  · intro turn hturn
    exact hreaches.suits_of_mem (iff_of_true rfl rfl) hturn

end Encoder

end Soundalike
