import Mathlib.Data.List.Nodup
import Soundalike.Proofs.LiveBranches

set_option autoImplicit false

/-!
# Codes lost by merging

Branches that have reached the same code are one candidate, and the first of them stays.  The
branches that are dropped may have had another replacement applied last, and then the next
replacement may be added to one of them and left out of the other: what the dropped branch would
have become is lost.  In the name `cjz` this happens to the code 400000.

This is the only way to lose a code.  A choice is merged away if at some step a live branch stands
for it that has its code and the two part over the next replacement.  A choice that is not merged
away keeps its code (`exists_mem_liveAfter_or_mergedAway`), and every live branch is that of such a
choice (`exists_choice_of_mem_liveAfter`).  To be merged away takes a field in which one alternative
ends with another (`not_mergedAway`).
-/

namespace Soundalike

/-- The choice of `chosen` from `own` on is merged away in a run from `live`: at some step a live
branch has the code of the choice, a code with room left, and the next replacement is added to one
of the two only. -/
inductive MergedAway : List Branch → Branch → List Step → List Replacement → Prop
  | now {live : List Branch} {own : Branch} {step : Step} {steps : List Step}
      {replacement : Replacement} {chosen : List Replacement} (carrier : Branch)
      (hmem : carrier ∈ live) (hcode : carrier.code = own.code)
      (hroom : own.code.length < Code.size)
      (hadds : carrier.adds replacement step.force ≠ own.adds replacement step.force) :
      MergedAway live own (step :: steps) (replacement :: chosen)
  | later {live : List Branch} {own : Branch} {step : Step} {steps : List Step}
      {replacement : Replacement} {chosen : List Replacement}
      (h : MergedAway (step.advance .every live) (own.apply replacement step.force) steps chosen) :
      MergedAway live own (step :: steps) (replacement :: chosen)

/-- No alternative ends with another one. -/
def Alternatives.SuffixFree (alternatives : Alternatives) : Prop :=
  ∀ first ∈ alternatives.toList, ∀ second ∈ alternatives.toList,
    first <:+ second → first = second

instance (alternatives : Alternatives) : Decidable alternatives.SuffixFree :=
  inferInstanceAs (Decidable (∀ first ∈ alternatives.toList, ∀ second ∈ alternatives.toList,
    first <:+ second → first = second))

/-! ## A choice keeps its code until it is merged away -/

/-- Two branches with one code have one code after a step, unless the replacement is added to one
of them only. -/
theorem Branch.code_apply_congr {first second : Branch} {replacement : Replacement} {force : Bool}
    (hcode : first.code = second.code)
    (hadds : first.adds replacement force = second.adds replacement force) :
    (first.apply replacement force).code = (second.apply replacement force).code := by
  cases h : second.adds replacement force with
  | true =>
    rw [code_apply_of_adds (hadds.trans h), code_apply_of_adds h, hcode]
  | false =>
    rw [code_apply_of_not_adds (hadds.trans h), code_apply_of_not_adds h, hcode]

/-- Branches with one code go apart only while there is room and only over what they add. -/
theorem Branch.parts_of_code_apply_ne {first second : Branch} {replacement : Replacement}
    {force : Bool} (hcode : first.code = second.code)
    (hne : (first.apply replacement force).code ≠ (second.apply replacement force).code) :
    second.code.length < Code.size ∧
      first.adds replacement force ≠ second.adds replacement force := by
  refine ⟨?_, fun hadds => hne (Branch.code_apply_congr hcode hadds)⟩
  rcases Nat.lt_or_eq_of_le second.length_code_le with hroom | hfull
  · exact hroom
  · have hfirst : first.code.length = Code.size := by rw [hcode, hfull]
    rw [code_apply_of_full hfirst, code_apply_of_full hfull] at hne
    exact absurd hcode hne

/-- While a live branch has the code of a choice, some live branch has it after the next step, or
the choice is merged away there. -/
theorem exists_mem_liveAfter_or_mergedAway {steps : List Step} {chosen : List Replacement}
    (hchosen : IsChoice steps chosen) {live : List Branch} {own : Branch}
    (hcarried : ∃ carrier ∈ live, carrier.code = own.code) :
    (∃ branch ∈ liveAfter .every steps live, branch.code = (own.follow steps chosen).code) ∨
      MergedAway live own steps chosen := by
  induction hchosen generalizing live own with
  | nil =>
    left
    rw [Branch.follow_nil]
    exact hcarried
  | @cons step replacement steps chosen hreplacement hrest ih =>
    obtain ⟨carrier, hmem, hcode⟩ := hcarried
    by_cases hnext : (carrier.apply replacement step.force).code =
        (own.apply replacement step.force).code
    · obtain ⟨next, hnextMem, hnextCode⟩ := exists_mem_advance_every hmem hreplacement
      rcases ih ⟨next, hnextMem, hnextCode.trans hnext⟩ with hfound | hmerged
      · exact Or.inl hfound
      · exact Or.inr (.later hmerged)
    · obtain ⟨hroom, hadds⟩ := Branch.parts_of_code_apply_ne hcode hnext
      exact Or.inr (.now carrier hmem hcode hroom hadds)

/-- A live branch stands for itself as long as no code is live twice, so it is that of a choice that
is not merged away. -/
theorem exists_choice_of_mem_liveAfter {steps : List Step} {live : List Branch}
    (hnodup : (live.map Branch.code).Nodup) {branch : Branch}
    (h : branch ∈ liveAfter .every steps live) :
    ∃ own ∈ live, ∃ chosen, IsChoice steps chosen ∧ ¬ MergedAway live own steps chosen ∧
      own.follow steps chosen = branch := by
  induction steps generalizing live with
  | nil =>
    refine ⟨branch, h, [], .nil, ?_, rfl⟩
    intro hmerged
    cases hmerged
  | cons step rest ih =>
    have hnext : ((step.advance .every live).map Branch.code).Nodup :=
      nodup_map_distinctBy Branch.code _
    obtain ⟨next, hmem, chosen, hchosen, hkept, hbranch⟩ := ih hnext h
    obtain ⟨own, hown, replacement, hreplacement, rfl⟩ := exists_of_mem_advance hmem
    refine ⟨own, hown, replacement :: chosen, .cons hreplacement hchosen, ?_, hbranch⟩
    intro hmerged
    cases hmerged with
    | now carrier hcarrier hcode _ hadds =>
      have hsame : carrier = own := List.inj_on_of_nodup_map hnodup hcarrier hown hcode
      exact hadds (by rw [hsame])
    | later hlater => exact hkept hlater

/-! ## Merging needs a field with one alternative at the end of another -/

/-- The replacement applied last stands at the end of the code, as long as there is room. -/
def Branch.Tailed (branch : Branch) : Prop :=
  branch.code.length < Code.size → ∀ last, branch.last = some last → last <:+ branch.code

theorem Branch.tailed_empty : Branch.empty.Tailed := by
  intro _ last hlast
  cases hlast

/-- A replacement that is left out stands at the end of the one before, hence of the code. -/
theorem Branch.Tailed.apply {branch : Branch} (h : branch.Tailed) (replacement : Replacement)
    (force : Bool) : (branch.apply replacement force).Tailed := by
  intro hroom last hlast
  rw [last_apply] at hlast
  obtain rfl := Option.some.inj hlast
  cases hadds : branch.adds replacement force with
  | true =>
    rw [code_apply_of_adds hadds] at hroom ⊢
    have hshort : (branch.code ++ replacement).length ≤ Code.size := by
      rw [List.length_take] at hroom
      omega
    rw [List.take_of_length_le hshort]
    exact List.suffix_append _ _
  | false =>
    rw [code_apply_of_not_adds hadds] at hroom ⊢
    obtain ⟨-, before, hbefore, hsuffix⟩ := adds_eq_false_iff.mp hadds
    exact hsuffix.trans (h hroom before hbefore)

/-- Every live branch that has the code of `own`, a code with room left, had the same replacement
applied last. -/
def Agrees (live : List Branch) (own : Branch) : Prop :=
  ∀ branch ∈ live, branch.code = own.code → own.code.length < Code.size →
    branch.last = own.last

/-- Two replacements at the end of one code are one of them at the end of the other, which makes
them equal in a field without such alternatives. -/
theorem agrees_advance {step : Step} (hfree : step.alternatives.SuffixFree) {live : List Branch}
    (hlive : ∀ branch ∈ live, branch.Tailed) {own : Branch} (hown : own.Tailed)
    {replacement : Replacement} (hreplacement : replacement ∈ step.alternatives.toList) :
    Agrees (step.advance .every live) (own.apply replacement step.force) := by
  intro next hnext hcode hroom
  obtain ⟨branch, hbranch, other, hother, rfl⟩ := exists_of_mem_advance hnext
  have hownSuffix := hown.apply replacement step.force hroom replacement (Branch.last_apply ..)
  have hotherSuffix := (hlive branch hbranch).apply other step.force (hcode ▸ hroom) other
    (Branch.last_apply ..)
  rw [hcode] at hotherSuffix
  have hequal : other = replacement := by
    rcases List.suffix_or_suffix_of_suffix hotherSuffix hownSuffix with h | h
    · exact hfree other hother replacement hreplacement h
    · exact (hfree replacement hreplacement other hother h).symm
  rw [Branch.last_apply, Branch.last_apply, hequal]

theorem not_mergedAway {live : List Branch} {own : Branch} {steps : List Step}
    {chosen : List Replacement} (hfree : ∀ step ∈ steps, step.alternatives.SuffixFree)
    (hchosen : IsChoice steps chosen) (hlive : ∀ branch ∈ live, branch.Tailed)
    (hown : own.Tailed) (hagrees : Agrees live own) : ¬ MergedAway live own steps chosen := by
  intro h
  induction h with
  | now carrier hmem hcode hroom hadds =>
    have hlast := hagrees carrier hmem hcode hroom
    exact hadds (by rw [Branch.adds, Branch.adds, hlast])
  | @later live own step steps replacement chosen _ ih =>
    obtain ⟨_, hreplacement, _, hrest, heq⟩ := isChoice_cons_iff.mp hchosen
    obtain ⟨rfl, rfl⟩ := List.cons.inj heq
    have hfreeHere := hfree step List.mem_cons_self
    have hfreeLater : ∀ later ∈ steps, later.alternatives.SuffixFree := by
      intro later hlater
      exact hfree later (List.mem_cons_of_mem step hlater)
    have hnext : ∀ next ∈ step.advance .every live, next.Tailed :=
      forall_advance (fun _ htailed other _ => htailed.apply other step.force) hlive
    exact ih hfreeLater hrest hnext (hown.apply replacement step.force)
      (agrees_advance hfreeHere hlive hown hreplacement)

/-! ## The codes of a name -/

namespace Encoder

variable (encoder : Encoder) (name : Text)

/-- A branch stands for its code only, also when it is finished. -/
theorem finish_code_mem_codes {branch own : Branch}
    (hlive : branch ∈ liveAfter .every (encoder.steps name) [.empty])
    (hcode : branch.code = own.code) : own.finish.code ∈ encoder.codes name := by
  rw [codes, mem_run_iff]
  refine ⟨branch, hlive, ?_⟩
  rw [Branch.code_finish, Branch.code_finish, hcode]

theorem chosenCode_mem_codes_of_not_mergedAway {chosen : List Replacement}
    (hchosen : IsChoice (encoder.steps name) chosen)
    (h : ¬ MergedAway [.empty] .empty (encoder.steps name) chosen) :
    encoder.chosenCode name chosen ∈ encoder.codes name := by
  have hstart : ∃ carrier ∈ [Branch.empty], carrier.code = Branch.empty.code :=
    ⟨.empty, List.mem_singleton_self _, rfl⟩
  rcases exists_mem_liveAfter_or_mergedAway hchosen hstart with ⟨branch, hlive, hcode⟩ | hmerged
  · exact encoder.finish_code_mem_codes name hlive hcode
  · exact absurd hmerged h

/-- At the start there is one branch, with nothing applied, so only fields can let choices part. -/
theorem not_mergedAway_of_suffixFree
    (hfree : ∀ step ∈ encoder.steps name, step.alternatives.SuffixFree)
    {chosen : List Replacement} (hchosen : IsChoice (encoder.steps name) chosen) :
    ¬ MergedAway [.empty] .empty (encoder.steps name) chosen := by
  have hagrees : Agrees [.empty] .empty := by
    intro branch hbranch _ _
    rw [List.mem_singleton.mp hbranch]
  have htailed : ∀ branch ∈ [Branch.empty], branch.Tailed := by
    intro branch hbranch
    rw [List.mem_singleton.mp hbranch]
    exact Branch.tailed_empty
  exact not_mergedAway hfree hchosen htailed Branch.tailed_empty hagrees

/-- A code of a name is that of a choice that is not merged away. -/
theorem exists_choice_of_mem_codes {code : Code} (h : code ∈ encoder.codes name) :
    ∃ chosen, IsChoice (encoder.steps name) chosen ∧
      ¬ MergedAway [.empty] .empty (encoder.steps name) chosen ∧
      encoder.chosenCode name chosen = code := by
  obtain ⟨branch, hlive, rfl⟩ := (encoder.mem_run_iff name).mp h
  have hstart : ([Branch.empty].map Branch.code).Nodup := List.nodup_singleton _
  obtain ⟨own, hown, chosen, hchosen, hkept, rfl⟩ := exists_choice_of_mem_liveAfter hstart hlive
  obtain rfl := List.mem_singleton.mp hown
  exact ⟨chosen, hchosen, hkept, rfl⟩

/-- The codes of a name are those of the choices that are not merged away.  Where no field that
applies in the name has an alternative that ends with another one, no choice is merged away, and the
codes are those of all choices: dropping branches at every step loses no code. -/
theorem mem_codes_iff_not_mergedAway :
    (∀ code, code ∈ encoder.codes name ↔
      ∃ chosen, IsChoice (encoder.steps name) chosen ∧
        ¬ MergedAway [.empty] .empty (encoder.steps name) chosen ∧
        encoder.chosenCode name chosen = code) ∧
    ((∀ step ∈ encoder.steps name, step.alternatives.SuffixFree) →
      (∀ chosen, IsChoice (encoder.steps name) chosen →
        ¬ MergedAway [.empty] .empty (encoder.steps name) chosen) ∧
      ∀ code, code ∈ encoder.codes name ↔
        ∃ chosen, IsChoice (encoder.steps name) chosen ∧
          encoder.chosenCode name chosen = code) := by
  refine ⟨?_, ?_⟩
  · intro code
    constructor
    · exact encoder.exists_choice_of_mem_codes name
    · rintro ⟨chosen, hchosen, hkept, rfl⟩
      exact encoder.chosenCode_mem_codes_of_not_mergedAway name hchosen hkept
  · intro hfree
    have hkept : ∀ chosen, IsChoice (encoder.steps name) chosen →
        ¬ MergedAway [.empty] .empty (encoder.steps name) chosen :=
      fun chosen hchosen => encoder.not_mergedAway_of_suffixFree name hfree hchosen
    refine ⟨hkept, fun code => ?_⟩
    constructor
    · intro h
      obtain ⟨chosen, hchosen, -, hcode⟩ := encoder.exists_choice_of_mem_codes name h
      exact ⟨chosen, hchosen, hcode⟩
    · rintro ⟨chosen, hchosen, rfl⟩
      exact encoder.chosenCode_mem_codes_of_not_mergedAway name hchosen (hkept chosen hchosen)

/-- The eight choices for the first three letters of `cccc` come to six codes, so branches are
dropped before the last letter.  The branch of the sounds 4, 5 and 5 is one of them, as 4, 4 and 5
have the code 45 too; yet the choice is not merged away, and with 4 for the last letter its code is
found. -/
theorem mem_codes_iff_not_mergedAway_cccc :
    let name := "cccc".toList
    let chosen := [['4'], ['5'], ['5'], ['4']]
    (∀ step ∈ standard.steps name, step.alternatives.SuffixFree) ∧
      (choices ((standard.steps name).take 3)).length = 8 ∧
      (liveAfter .every ((standard.steps name).take 3) [.empty]).length = 6 ∧
      IsChoice (standard.steps name) chosen ∧
      ¬ MergedAway [.empty] .empty (standard.steps name) chosen ∧
      standard.chosenCode name chosen = "454000".toList ∧
      "454000".toList ∈ standard.codes name := by
  intro name chosen
  have hfree : ∀ step ∈ standard.steps name, step.alternatives.SuffixFree := by
    decide +kernel
  have hchoices : (choices ((standard.steps name).take 3)).length = 8 := by decide +kernel
  have hlive : (liveAfter .every ((standard.steps name).take 3) [.empty]).length = 6 := by
    decide +kernel
  have hchosen : IsChoice (standard.steps name) chosen := by decide +kernel
  have hcode : standard.chosenCode name chosen = "454000".toList := by decide +kernel
  obtain ⟨hkept, hcodes⟩ := (standard.mem_codes_iff_not_mergedAway name).right hfree
  exact ⟨hfree, hchoices, hlive, hchosen, hkept chosen hchosen, hcode,
    (hcodes _).mpr ⟨chosen, hchosen, hcode⟩⟩

/-- In `cjz` the sounds 4, 4 and 4 make 400000: the second and the third are left out.  After `cj`
the sounds 4 and nothing have the same code and come first; from them the third adds a 4. -/
theorem cjz_loses_a_code :
    ¬ ∀ (encoder : Encoder) (name : Text) (chosen : List Replacement),
      IsChoice (encoder.steps name) chosen →
        encoder.chosenCode name chosen ∈ encoder.codes name := by
  intro h
  have hmem := h standard "cjz".toList [['4'], ['4'], ['4']] (by decide +kernel)
  exact absurd hmem (by decide +kernel)

end Encoder

end Soundalike
