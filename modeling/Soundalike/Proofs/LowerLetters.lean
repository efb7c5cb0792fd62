import Mathlib.Data.List.Chain
import Soundalike.Letter

set_option autoImplicit false

/-!
# Lower-case letters

Lower-casing reaches its end in one pass (`lower_lower`), leads from letters to letters
(`isLetter_lower`) and gives no other character but itself (`eq_of_lower_eq`), and no blank is a
letter (`isBlank_eq_false_of_isLetter`).  The tables are compared run against run and run against
range, not code point by code point: the lower-case forms of a run fill a stretch of code points, so
it is enough that no run maps a part of the stretch and that one range of letters holds all of it.
-/

namespace Soundalike.Letter

/-! ## Ranges -/

/-- Where ranges ascend, the search finds the range in which a code point lies. -/
theorem inRanges_of_mem {ranges : List (Nat × Nat)}
    (hascending : (ranges.map Prod.fst).Pairwise (· ≤ ·)) {range : Nat × Nat}
    (hmem : range ∈ ranges) {n : Nat} (hfirst : range.1 ≤ n) (hlast : n ≤ range.2) :
    inRanges n ranges = true := by
  induction ranges with
  | nil => cases hmem
  | cons head rest ih =>
    rw [List.map_cons, List.pairwise_cons] at hascending
    obtain ⟨hhead, hrest⟩ := hascending
    rw [inRanges, Bool.and_eq_true, Bool.or_eq_true, Nat.ble_eq, Nat.ble_eq]
    rcases List.mem_cons.mp hmem with rfl | htail
    · exact ⟨hfirst, Or.inl hlast⟩
    · have hle : head.1 ≤ range.1 := hhead range.1 (List.mem_map_of_mem htail)
      exact ⟨hle.trans hfirst, Or.inr (ih hrest htail)⟩

theorem exists_mem_of_inRanges {ranges : List (Nat × Nat)} {n : Nat}
    (h : inRanges n ranges = true) : ∃ range ∈ ranges, range.1 ≤ n ∧ n ≤ range.2 := by
  induction ranges with
  | nil => cases h
  | cons head rest ih =>
    rw [inRanges, Bool.and_eq_true, Bool.or_eq_true, Nat.ble_eq, Nat.ble_eq] at h
    obtain ⟨hfirst, hlast | hrest⟩ := h
    · exact ⟨head, List.mem_cons_self, hfirst, hlast⟩
    · obtain ⟨range, hmem, hbounds⟩ := ih hrest
      exact ⟨range, List.mem_cons_of_mem _ hmem, hbounds⟩

theorem pairwise_alphabeticRanges : (alphabeticRanges.map Prod.fst).Pairwise (· ≤ ·) :=
  List.isChain_iff_pairwise.mp (by decide +kernel)

/-- No range of letters reaches a surrogate or the end of the code points. -/
theorem isValidChar_of_mem_alphabeticRanges : ∀ range ∈ alphabeticRanges,
    range.2 < 0xD800 ∨ 0xDFFF < range.1 ∧ range.2 < 0x110000 := by
  decide +kernel

theorem isValidChar_of_inRanges {n : Nat} (h : inRanges n alphabeticRanges = true) :
    n.isValidChar := by
  obtain ⟨range, hmem, hfirst, hlast⟩ := exists_mem_of_inRanges h
  have := isValidChar_of_mem_alphabeticRanges range hmem
  rw [Nat.isValidChar]
  omega

/-! ## Runs -/

namespace Run

/-- The lower-case form of the first code point of the run. -/
def low (run : Run) : Nat := run.apply run.first

/-- The lower-case form of the last code point of the run. -/
def high (run : Run) : Nat := run.apply run.last

/-- Another run maps no lower-case form of this run: it lies beside them, or it goes in steps of two
and passes them by, as the capitals and the small letters of Latin Extended-A do. -/
def misses (run other : Run) : Bool :=
  run.high.blt other.first || other.last.blt run.low ||
    (Nat.blt 0 run.low && other.stride.beq 2 && (run.stride.beq 2 || run.first.beq run.last) &&
      ((run.low + other.first) % 2).beq 1)

theorem covers_iff {run : Run} {n : Nat} :
    run.covers n = true ↔
      run.first ≤ n ∧ n ≤ run.last ∧ (n - run.first) % run.stride = 0 := by
  simp [covers, and_assoc]

theorem apply_bounds {run : Run} {n : Nat} (h : run.covers n = true) :
    run.low ≤ run.apply n ∧ run.apply n ≤ run.high := by
  obtain ⟨hfirst, hlast, -⟩ := covers_iff.mp h
  simp only [low, high, apply]
  omega

/-- Where a run goes in steps of two, so do its lower-case forms. -/
theorem apply_parity {run : Run} {n : Nat} (h : run.covers n = true) (hlow : 0 < run.low)
    (hsteps : run.stride = 2 ∨ run.first = run.last) : run.apply n % 2 = run.low % 2 := by
  obtain ⟨hfirst, hlast, hstride⟩ := covers_iff.mp h
  have heven : (n - run.first) % 2 = 0 := by
    rcases hsteps with htwo | hsingle
    · rwa [htwo] at hstride
    · omega
  simp only [low, apply] at hlow ⊢
  omega

theorem covers_apply_of_misses {run other : Run} {n : Nat} (hmisses : run.misses other = true)
    (h : run.covers n = true) : other.covers (run.apply n) = false := by
  obtain ⟨hlow, hhigh⟩ := apply_bounds h
  simp only [misses, Bool.or_eq_true, Bool.and_eq_true, Nat.blt_eq, Nat.beq_eq] at hmisses
  rw [← Bool.not_eq_true, covers_iff]
  rintro ⟨hfirst, hlast, hstride⟩
  rcases hmisses with (hbelow | habove) | ⟨⟨⟨hpos, htwo⟩, hsteps⟩, hodd⟩
  · omega
  · omega
  · have hparity := apply_parity h hpos hsteps
    rw [htwo] at hstride
    omega

end Run

/-- No run maps a lower-case form. -/
theorem all_lowerRuns_misses :
    (lowerRuns.all fun run => lowerRuns.all run.misses) = true := by
  decide +kernel

/-- The lower-case forms of a run lie within one range of letters. -/
theorem all_lowerRuns_within :
    (lowerRuns.all fun run =>
      alphabeticRanges.any fun range => range.1.ble run.low && run.high.ble range.2) = true := by
  decide +kernel

theorem inRanges_apply {run : Run} (hrun : run ∈ lowerRuns) {n : Nat} (h : run.covers n = true) :
    inRanges (run.apply n) alphabeticRanges = true := by
  have hwithin := List.all_eq_true.mp all_lowerRuns_within run hrun
  obtain ⟨range, hmem, hbounds⟩ := List.any_eq_true.mp hwithin
  rw [Bool.and_eq_true, Nat.ble_eq, Nat.ble_eq] at hbounds
  obtain ⟨hlow, hhigh⟩ := Run.apply_bounds h
  exact inRanges_of_mem pairwise_alphabeticRanges hmem (hbounds.1.trans hlow)
    (hhigh.trans hbounds.2)

/-! ## Code points -/

theorem lowerIn_of_not_covers {runs : List Run} {n : Nat}
    (h : ∀ run ∈ runs, run.covers n = false) : lowerIn n runs = n := by
  induction runs with
  | nil => rfl
  | cons run rest ih =>
    obtain ⟨hrun, hrest⟩ := List.forall_mem_cons.mp h
    rw [lowerIn, hrun, ih hrest]
    simp

/-- A code point stays as it is, or one of the runs maps it. -/
theorem lowerIn_cases (n : Nat) (runs : List Run) :
    lowerIn n runs = n ∨ ∃ run ∈ runs, run.covers n = true ∧ lowerIn n runs = run.apply n := by
  fun_induction lowerIn n runs with
  | case1 => exact Or.inl rfl
  | case2 run rest hbelow => exact Or.inl rfl
  | case3 run rest hbelow hcovers => exact Or.inr ⟨run, List.mem_cons_self, hcovers, rfl⟩
  | case4 run rest hbelow hcovers ih =>
    refine ih.imp id ?_
    rintro ⟨found, hmem, hfound⟩
    exact ⟨found, List.mem_cons_of_mem run hmem, hfound⟩

theorem lowerIn_lowerIn (n : Nat) :
    lowerIn (lowerIn n lowerRuns) lowerRuns = lowerIn n lowerRuns := by
  rcases lowerIn_cases n lowerRuns with hself | ⟨run, hrun, hcovers, happly⟩
  · rw [hself, hself]
  · rw [happly]
    apply lowerIn_of_not_covers
    intro other hother
    have hall := List.all_eq_true.mp all_lowerRuns_misses run hrun
    exact Run.covers_apply_of_misses (List.all_eq_true.mp hall other hother) hcovers

/-! ## Letters -/

theorem toNat_lower (c : Char) : (lower c).toNat = lowerIn c.toNat lowerRuns := by
  have hvalid : (lowerIn c.toNat lowerRuns).isValidChar := by
    rcases lowerIn_cases c.toNat lowerRuns with hself | ⟨run, hrun, hcovers, happly⟩
    · rw [hself]
      exact c.valid
    · rw [happly]
      exact isValidChar_of_inRanges (inRanges_apply hrun hcovers)
  rw [lower, Char.ofNat, dif_pos hvalid]
  rfl

/-- Lower-casing reaches its end in one pass. -/
theorem lower_lower (c : Char) : lower (lower c) = lower c := by
  conv_lhs => rw [lower, toNat_lower, lowerIn_lowerIn]
  rw [lower]

/-- Lower-casing leaves a character as it is or makes a letter of it. -/
theorem lower_eq_self_or_isLetter (c : Char) : lower c = c ∨ isLetter (lower c) = true := by
  rcases lowerIn_cases c.toNat lowerRuns with hself | ⟨run, hrun, hcovers, happly⟩
  · rw [← toNat_lower, Char.toNat_inj] at hself
    exact Or.inl hself
  · rw [isLetter, isAlphabetic, toNat_lower, happly]
    exact Or.inr (inRanges_apply hrun hcovers)

theorem isLetter_lower {c : Char} (h : isLetter c = true) : isLetter (lower c) = true := by
  rcases lower_eq_self_or_isLetter c with hself | hletter
  · rw [hself]
    exact h
  · exact hletter

/-- A character that is no letter is the lower-case form of itself alone. -/
theorem eq_of_lower_eq {c d : Char} (hd : isLetter d = false) (h : lower c = d) : c = d := by
  rcases lower_eq_self_or_isLetter c with hself | hletter
  · exact hself.symm.trans h
  · rw [h, hd] at hletter
    cases hletter

/-! ## Blanks -/

/-- The code points of blanks. -/
def blanks : List Nat :=
  List.range' 0x09 5 ++ [0x20, 0x85, 0xA0, 0x1680, 0x180E] ++ List.range' 0x2000 11 ++
    [0x2028, 0x2029, 0x202F, 0x205F, 0x3000]

theorem toNat_mem_blanks {c : Char} (h : isBlank c = true) : c.toNat ∈ blanks := by
  simp only [isBlank, Bool.or_eq_true, Bool.and_eq_true, decide_eq_true_eq, beq_iff_eq] at h
  simp only [blanks, List.mem_append, List.mem_range'_1, List.mem_cons, List.not_mem_nil]
  omega

theorem not_inRanges_of_mem_blanks : ∀ n ∈ blanks, inRanges n alphabeticRanges = false := by
  decide +kernel

theorem isBlank_eq_false_of_isLetter {c : Char} (h : isLetter c = true) : isBlank c = false := by
  rw [← Bool.not_eq_true]
  intro hblank
  have hnot := not_inRanges_of_mem_blanks c.toNat (toNat_mem_blanks hblank)
  rw [isLetter, isAlphabetic, hnot] at h
  cases h

end Soundalike.Letter
