import Mathlib.Algebra.BigOperators.Group.Finset.Basic
import Mathlib.Data.List.Induction
import Soundalike.Proofs.LongestMatch

set_option autoImplicit false

/-!
# The groups of a table

The groups of a table can be filled in one pass, each rule in turn at the end of the group of its
first letter (`groups_eq_gather`), so no rule is lost or repeated (`groups_perm`).  What stands in a
group, and in which order, is settled by three conditions that no other list meets
(`candidates_eq_iff_isGroup`): the rules are those of its letter, none stands before a longer one,
and those of one length keep their order.
-/

namespace Soundalike

namespace Rule

/-! ## One rule after another -/

/-- Puts a rule at the end of the group of its first letter, which is started if there is none. -/
def joinGroup (rule : Rule) : List (Char × List Rule) → List (Char × List Rule)
  | [] => [(rule.first, [rule])]
  | (letter, group) :: others =>
    if letter = rule.first then (letter, group ++ [rule]) :: others
    else (letter, group) :: rule.joinGroup others

/-- The groups into which rules fall, one rule after another; they are not ordered by length yet. -/
def gather (rules : List Rule) : List (Char × List Rule) :=
  rules.foldl (fun groups rule => rule.joinGroup groups) []

theorem gather_concat (rules : List Rule) (rule : Rule) :
    gather (rules ++ [rule]) = rule.joinGroup (gather rules) :=
  List.foldl_concat _ _ _ _

/-- A rule joins one group and joins it once, and all others stay. -/
theorem joinGroup_perm (rule : Rule) (groups : List (Char × List Rule)) :
    ((rule.joinGroup groups).flatMap Prod.snd).Perm (rule :: groups.flatMap Prod.snd) := by
  induction groups with
  | nil => exact List.Perm.refl _
  | cons entry others ih =>
    obtain ⟨letter, group⟩ := entry
    rw [joinGroup]
    split
    · rw [List.flatMap_cons, List.flatMap_cons, List.append_assoc]
      exact List.perm_middle
    · rw [List.flatMap_cons, List.flatMap_cons]
      exact (ih.append_left group).trans List.perm_middle

theorem gather_perm (rules : List Rule) : ((gather rules).flatMap Prod.snd).Perm rules := by
  induction rules using List.reverseRecOn with
  | nil => exact List.Perm.refl _
  | append_singleton rules rule ih =>
    have hjoin := joinGroup_perm rule (gather rules)
    have hlast := (List.perm_append_singleton rule rules).symm
    rw [gather_concat]
    exact hjoin.trans ((ih.cons rule).trans hlast)

/-- The rules of each of some letters. -/
def byLetter (letters : List Char) (rules : List Rule) : List (Char × List Rule) :=
  letters.map fun letter => (letter, rules.filter (·.first = letter))

section

variable {letters : List Char} {rules : List Rule} {rule : Rule}

theorem byLetter_cons (letter : Char) (letters : List Char) (rules : List Rule) :
    byLetter (letter :: letters) rules =
      (letter, rules.filter (·.first = letter)) :: byLetter letters rules := rfl

theorem byLetter_append (letters others : List Char) (rules : List Rule) :
    byLetter (letters ++ others) rules = byLetter letters rules ++ byLetter others rules :=
  List.map_append

theorem filter_first_concat_of_ne {letter : Char} (h : rule.first ≠ letter) :
    (rules ++ [rule]).filter (·.first = letter) = rules.filter (·.first = letter) := by
  rw [List.filter_append, List.filter_cons_of_neg (by simpa using h), List.filter_nil,
    List.append_nil]

theorem filter_first_concat_self :
    (rules ++ [rule]).filter (·.first = rule.first) =
      rules.filter (·.first = rule.first) ++ [rule] := by
  rw [List.filter_append, List.filter_cons_of_pos (by simp), List.filter_nil]

/-- One rule more makes no difference to other letters. -/
theorem byLetter_concat_of_not_mem (h : rule.first ∉ letters) :
    byLetter letters (rules ++ [rule]) = byLetter letters rules := by
  refine List.map_congr_left fun letter hletter => ?_
  rw [filter_first_concat_of_ne fun heq => h (heq ▸ hletter)]

/-- A rule of none of the letters starts a group behind theirs. -/
theorem joinGroup_byLetter_of_not_mem (h : rule.first ∉ letters) :
    rule.joinGroup (byLetter letters rules) = byLetter letters rules ++ [(rule.first, [rule])] := by
  induction letters with
  | nil => rfl
  | cons letter others ih =>
    rw [List.mem_cons, not_or] at h
    obtain ⟨hletter, hothers⟩ := h
    rw [byLetter_cons, joinGroup, if_neg (Ne.symm hletter), ih hothers, List.cons_append]

/-- A rule of one of the letters is put behind the others of that letter. -/
theorem joinGroup_byLetter_of_mem (hnodup : letters.Nodup) (h : rule.first ∈ letters) :
    rule.joinGroup (byLetter letters rules) = byLetter letters (rules ++ [rule]) := by
  induction letters with
  | nil => cases h
  | cons letter others ih =>
    obtain ⟨hletter, hothers⟩ := List.nodup_cons.mp hnodup
    rw [byLetter_cons, byLetter_cons, joinGroup]
    by_cases hfirst : rule.first = letter
    · obtain rfl := hfirst
      rw [if_pos rfl, filter_first_concat_self, byLetter_concat_of_not_mem hletter]
    · have hmem : rule.first ∈ others := (List.mem_cons.mp h).resolve_left hfirst
      rw [if_neg (Ne.symm hfirst), filter_first_concat_of_ne hfirst, ih hothers hmem]

end

/-- The groups that are filled one rule after another are the rules of each first letter. -/
theorem gather_eq_byLetter (rules : List Rule) :
    gather rules = byLetter (distinct (rules.map first)) rules := by
  induction rules using List.reverseRecOn with
  | nil => rfl
  | append_singleton rules rule ih =>
    rw [gather_concat, ih, List.map_append, List.map_singleton, distinct_concat]
    split
    · next hmem => exact joinGroup_byLetter_of_mem (nodup_distinct _) (mem_distinct.mpr hmem)
    · next hnew =>
      have hletter : rule.first ∉ distinct (rules.map first) := mt mem_distinct.mp hnew
      have hnone : rules.filter (·.first = rule.first) = [] := by
        rw [List.filter_eq_nil_iff]
        intro other hother hfirst
        exact hnew (of_decide_eq_true hfirst ▸ List.mem_map_of_mem hother)
      rw [joinGroup_byLetter_of_not_mem hletter, byLetter_append, byLetter_cons,
        byLetter_concat_of_not_mem hletter, filter_first_concat_self, hnone]
      rfl

/-- The groups of a table are those that are filled one rule after another, each of them ordered by
length in the end. -/
theorem groups_eq_gather (rules : List Rule) :
    groups rules = (gather rules).map fun entry => (entry.1, longestFirst entry.2) := by
  rw [gather_eq_byLetter, byLetter, List.map_map]
  rfl

theorem groups_perm (rules : List Rule) : ((groups rules).flatMap Prod.snd).Perm rules := by
  have hordered : ((gather rules).flatMap fun entry => longestFirst entry.2).Perm
      ((gather rules).flatMap Prod.snd) :=
    List.Perm.flatMap_left _ fun entry _ => longestFirst_perm entry.2
  rw [groups_eq_gather, List.flatMap_map]
  exact hordered.trans (gather_perm rules)

/-! ## The order in a group -/

section

variable {rules others : List Rule}

/-- Lists that hold the same rules of each length hold the same rules. -/
theorem mem_iff_of_filter_length
    (h : ∀ size, rules.filter (·.length = size) = others.filter (·.length = size)) (rule : Rule) :
    rule ∈ rules ↔ rule ∈ others := by
  have hlength : rule ∈ rules.filter (·.length = rule.length) ↔
      rule ∈ others.filter (·.length = rule.length) := by
    rw [h]
  simpa [List.mem_filter] using hlength

/-- Where no rule stands before a longer one, the rules of each length in their order settle the
order of all. -/
theorem IsLongestFirst.eq_of_filter_length (hrules : IsLongestFirst rules)
    (hothers : IsLongestFirst others)
    (h : ∀ size, rules.filter (·.length = size) = others.filter (·.length = size)) :
    rules = others := by
  have hmem := mem_iff_of_filter_length h
  induction rules generalizing others with
  | nil =>
    refine (List.eq_nil_iff_forall_not_mem.mpr fun other hother => ?_).symm
    exact List.not_mem_nil ((hmem other).mpr hother)
  | cons rule rules ih =>
    obtain ⟨other, others, rfl⟩ :=
      List.exists_cons_of_ne_nil (List.ne_nil_of_mem ((hmem rule).mp List.mem_cons_self))
    have hlength : rule.length = other.length := by
      have hrule := hothers.length_le_of_mem ((hmem rule).mp List.mem_cons_self)
      have hother := hrules.length_le_of_mem ((hmem other).mpr List.mem_cons_self)
      exact Nat.le_antisymm hrule hother
    -- each is the first rule of its length
    have hheads := h rule.length
    rw [List.filter_cons_of_pos (by simp), List.filter_cons_of_pos (by simp [hlength])] at hheads
    obtain ⟨rfl, -⟩ := List.cons.inj hheads
    have htails : ∀ size, rules.filter (·.length = size) = others.filter (·.length = size) := by
      intro size
      have hsize := h size
      rw [List.filter_cons, List.filter_cons] at hsize
      split at hsize
      · exact (List.cons.inj hsize).right
      · exact hsize
    rw [ih (List.pairwise_cons.mp hrules).right (List.pairwise_cons.mp hothers).right htails
      (mem_iff_of_filter_length htails)]

end

/-- A list is the group of a letter among some rules if it holds those whose pattern starts with the
letter, the longest first, and those of one length in the order in which they are given. -/
structure IsGroup (rules : List Rule) (letter : Char) (group : List Rule) : Prop where
  perm : group.Perm (rules.filter (·.first = letter))
  longest_first : IsLongestFirst group
  keeps_order : ∀ size, group.filter (·.length = size) =
    rules.filter fun rule => rule.first = letter ∧ rule.length = size

theorem isGroup_longestFirst (rules : List Rule) (letter : Char) :
    IsGroup rules letter (longestFirst (rules.filter (·.first = letter))) where
  perm := longestFirst_perm _
  longest_first := isLongestFirst_longestFirst _
  keeps_order size := by
    rw [filter_length_longestFirst, List.filter_filter]
    simp only [Bool.decide_and, Bool.and_comm]

theorem IsGroup.unique {rules group other : List Rule} {letter : Char}
    (hgroup : IsGroup rules letter group) (hother : IsGroup rules letter other) : group = other :=
  hgroup.longest_first.eq_of_filter_length hother.longest_first fun size =>
    (hgroup.keeps_order size).trans (hother.keeps_order size).symm

end Rule

namespace RuleTable

theorem candidates_eq_iff_isGroup {table : RuleTable} {letter : Char} {group : List Rule} :
    table.candidates letter = group ↔ Rule.IsGroup table.rules letter group := by
  rw [candidates_eq_longestFirst]
  constructor
  · rintro rfl
    exact Rule.isGroup_longestFirst table.rules letter
  · exact (Rule.isGroup_longestFirst table.rules letter).unique

/-! ## Sizes -/

/-- A group has as many rules as patterns start with its letter. -/
theorem length_candidates (table : RuleTable) (letter : Char) :
    (table.candidates letter).length = (table.rules.map Rule.first).count letter := by
  rw [candidates_eq_longestFirst, (Rule.longestFirst_perm _).length_eq, List.count_eq_countP,
    List.countP_map, List.countP_eq_length_filter]
  rfl

theorem sum_length_candidates (table : RuleTable) :
    ∑ letter ∈ (table.rules.map Rule.first).toFinset, (table.candidates letter).length =
      table.size := by
  simp only [length_candidates]
  rw [List.sum_toFinset_count_eq_length, List.length_map]
  rfl

theorem groupCount_eq_card (table : RuleTable) :
    table.groupCount = (table.rules.map Rule.first).toFinset.card := by
  have hsame : (distinct (table.rules.map Rule.first)).toFinset =
      (table.rules.map Rule.first).toFinset := by
    ext letter
    rw [List.mem_toFinset, List.mem_toFinset, mem_distinct]
  rw [groupCount, table.groups_eq, Rule.groups, List.length_map, ← hsame,
    List.toFinset_card_of_nodup (nodup_distinct _)]

/-- A table parts its rules into groups, which together hold each rule as often as it is given.  For
a letter it has the group of that letter and nothing else: the rules whose pattern starts with it,
rearranged so that no rule stands before a longer one and those of one length keep their order.  The
groups of the first letters have as many rules together as the table, there are as many groups as
first letters, and only the table of no rules is empty. -/
theorem groups_partition_rules (rules : List Rule) :
    ((ofList rules).groups.flatMap Prod.snd).Perm rules ∧
      (∀ letter group, (ofList rules).candidates letter = group ↔
        Rule.IsGroup rules letter group) ∧
      ∑ letter ∈ (rules.map Rule.first).toFinset, ((ofList rules).candidates letter).length =
        (ofList rules).size ∧
      (ofList rules).groupCount = (rules.map Rule.first).toFinset.card ∧
      ((ofList rules).isEmpty = true ↔ rules = []) :=
  ⟨Rule.groups_perm rules, fun _ _ => candidates_eq_iff_isGroup, sum_length_candidates _,
    groupCount_eq_card _, List.isEmpty_iff⟩

end RuleTable

end Soundalike
