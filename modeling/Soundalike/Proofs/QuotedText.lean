import Mathlib.Data.List.Basic
import Soundalike.Proofs.Pieces
import Soundalike.Text.Quoted

set_option autoImplicit false

/-!
# What a quotation shows

A quoted text can be read off where it stands: no escape is the beginning of another one, so the
quotation settles the text and where it ends (`quoted_append_inj`).  And it can be seen: none of its
characters is hidden (`isHidden_of_mem_quoted`), so it stays on one line.
-/

namespace Soundalike.Text

/-! ## Hexadecimal digits -/

theorem digitChar_inj {first second : Nat} (hfirst : first < 16) (hsecond : second < 16)
    (h : Nat.digitChar first = Nat.digitChar second) : first = second := by
  have hall : ∀ first < 16, ∀ second < 16, Nat.digitChar first = Nat.digitChar second →
      first = second := by decide
  exact hall first hfirst second hsecond h

/-- More than one digit is not a single one. -/
theorem singleton_ne_toDigits_append (base number : Nat) (first last : Char) :
    [first] ≠ Nat.toDigits base number ++ [last] := by
  intro h
  have hlength := congrArg List.length h
  have hpos : 0 < (Nat.toDigits base number).length := Nat.length_toDigits_pos
  rw [List.length_append, List.length_singleton, List.length_singleton] at hlength
  omega

/-- A number is settled by its digits. -/
theorem toDigits_inj {base first second : Nat} (hbase : 1 < base) (hsmall : base ≤ 16)
    (h : Nat.toDigits base first = Nat.toDigits base second) : first = second := by
  induction first using Nat.strongRecOn generalizing second with
  | ind first ih =>
    rw [Nat.toDigits_eq_if hbase, Nat.toDigits_eq_if (n := second) hbase] at h
    split at h
    · split at h
      · exact digitChar_inj (by omega) (by omega) (List.singleton_inj.mp h)
      · exact absurd h (singleton_ne_toDigits_append _ _ _ _)
    · split at h
      · exact absurd h.symm (singleton_ne_toDigits_append _ _ _ _)
      · obtain ⟨hbefore, hlast⟩ := List.append_inj' h rfl
        have hdiv := ih (first / base) (Nat.div_lt_self (by omega) hbase) hbefore
        have hfirst : first % base < 16 := Nat.lt_of_lt_of_le (Nat.mod_lt _ (by omega)) hsmall
        have hsecond : second % base < 16 := Nat.lt_of_lt_of_le (Nat.mod_lt _ (by omega)) hsmall
        have hmod := digitChar_inj hfirst hsecond (List.singleton_inj.mp hlast)
        rw [← Nat.div_add_mod first base, hdiv, hmod, Nat.div_add_mod]

/-- Every digit of a number stands for a number below the base. -/
theorem exists_digitChar_of_mem_toDigits {base : Nat} (hbase : 1 < base) {number : Nat} {c : Char}
    (h : c ∈ Nat.toDigits base number) : ∃ digit < base, c = Nat.digitChar digit := by
  induction number using Nat.base_induction base hbase with
  | single number hnumber =>
    rw [Nat.toDigits_of_lt_base hnumber, List.mem_singleton] at h
    exact ⟨number, hnumber, h⟩
  | digit number digit hdigit hpos ih =>
    rw [← Nat.toDigits_append_toDigits hbase hpos hdigit, Nat.toDigits_of_lt_base hdigit] at h
    rcases List.mem_append.mp h with hbefore | hlast
    · exact ih hbefore
    · exact ⟨digit, hdigit, List.mem_singleton.mp hlast⟩

/-! ## Escapes -/

/-- The ways in which a character is shown: by a letter, by its number, or as it is. -/
theorem escape_cases (c : Char) :
    (∃ letter, (c, letter) ∈ escapeLetters ∧ escape c = ['\\', letter]) ∨
      escape c = numbered c ∨
      c ∉ escapeLetters.map Prod.fst ∧ isHidden c = false ∧ escape c = [c] := by
  cases hletter : escapeLetters.lookup c with
  | some letter =>
    obtain ⟨before, after, hentries, -⟩ := List.lookup_eq_some_iff.mp hletter
    refine Or.inl ⟨letter, ?_, by rw [escape, hletter]⟩
    rw [hentries]
    exact List.mem_append_right before List.mem_cons_self
  | none =>
    have hkey : c ∉ escapeLetters.map Prod.fst := by
      intro hmem
      obtain ⟨entry, hentry, rfl⟩ := List.mem_map.mp hmem
      simpa using List.lookup_eq_none_iff.mp hletter entry hentry
    cases hhidden : isHidden c with
    | true => exact Or.inr (Or.inl (by rw [escape, hletter, hhidden, if_pos rfl]))
    | false => exact Or.inr (Or.inr ⟨hkey, rfl, by rw [escape, hletter, hhidden]; rfl⟩)

theorem numbered_append_inj {c d : Char} {first second : Text}
    (h : numbered c ++ first = numbered d ++ second) : c = d ∧ first = second := by
  have hdigits : ∀ number, '\x7d' ∉ Nat.toDigits 16 number := by
    intro number hmem
    obtain ⟨digit, hdigit, hbrace⟩ := exists_digitChar_of_mem_toDigits (by decide) hmem
    have hall : ∀ digit < 16, '\x7d' ≠ Nat.digitChar digit := by decide
    exact hall digit hdigit hbrace
  simp only [numbered, List.append_assoc, List.cons_append, List.nil_append, List.cons.injEq,
    true_and] at h
  obtain ⟨hnumber, hrest⟩ := (append_cons_inj (hdigits _) (hdigits _)).mp h
  exact ⟨Char.toNat_inj.mp (toDigits_inj (by decide) (by decide) hnumber), hrest⟩

/-- An escape settles its character and where it ends. -/
theorem escape_append_inj {c d : Char} {first second : Text}
    (h : escape c ++ first = escape d ++ second) : c = d ∧ first = second := by
  have hletters : ∀ entry ∈ escapeLetters, ∀ other ∈ escapeLetters, entry.2 = other.2 →
      entry.1 = other.1 := by decide
  have hnumbers : ∀ entry ∈ escapeLetters, entry.2 ≠ 'u' := by decide
  have hbackslash : '\\' ∈ escapeLetters.map Prod.fst := by decide
  rcases escape_cases c with ⟨letter, hletter, hc⟩ | hc | ⟨hkey, -, hc⟩
  · rcases escape_cases d with ⟨other, hother, hd⟩ | hd | ⟨hkey, -, hd⟩
    · rw [hc, hd] at h
      obtain ⟨hsame, hrest⟩ := List.cons.inj (List.cons.inj h).2
      exact ⟨hletters _ hletter _ hother hsame, hrest⟩
    · rw [hc, hd, numbered] at h
      exact absurd (List.cons.inj (List.cons.inj h).2).1 (hnumbers _ hletter)
    · rw [hc, hd] at h
      exact absurd ((List.cons.inj h).1 ▸ hbackslash) hkey
  · rcases escape_cases d with ⟨other, hother, hd⟩ | hd | ⟨hkey, -, hd⟩
    · rw [hc, hd, numbered] at h
      exact absurd (List.cons.inj (List.cons.inj h).2).1.symm (hnumbers _ hother)
    · rw [hc, hd] at h
      exact numbered_append_inj h
    · rw [hc, hd, numbered] at h
      exact absurd ((List.cons.inj h).1 ▸ hbackslash) hkey
  · rcases escape_cases d with ⟨other, hother, hd⟩ | hd | ⟨-, -, hd⟩
    · rw [hc, hd] at h
      exact absurd ((List.cons.inj h).1 ▸ hbackslash) hkey
    · rw [hc, hd, numbered] at h
      exact absurd ((List.cons.inj h).1 ▸ hbackslash) hkey
    · rw [hc, hd] at h
      exact List.cons.inj h

/-- What is escaped does not look like the end of a quotation. -/
theorem quote_cons_ne_escape_append (c : Char) (rest text : Text) :
    '"' :: rest ≠ escape c ++ text := by
  have hquote : '"' ∈ escapeLetters.map Prod.fst := by decide
  intro h
  rcases escape_cases c with ⟨letter, -, hc⟩ | hc | ⟨hkey, -, hc⟩
  · rw [hc] at h
    exact absurd (List.cons.inj h).1 (by decide)
  · rw [hc, numbered] at h
    exact absurd (List.cons.inj h).1 (by decide)
  · rw [hc] at h
    exact hkey ((List.cons.inj h).1 ▸ hquote)

theorem flatMap_escape_append_inj {first second rest others : Text}
    (h : first.flatMap escape ++ '"' :: rest = second.flatMap escape ++ '"' :: others) :
    first = second ∧ rest = others := by
  induction first generalizing second with
  | nil =>
    cases second with
    | nil => exact ⟨rfl, (List.cons.inj h).2⟩
    | cons d second =>
      rw [List.flatMap_cons, List.append_assoc] at h
      exact absurd h (quote_cons_ne_escape_append d _ _)
  | cons c first ih =>
    cases second with
    | nil =>
      rw [List.flatMap_cons, List.append_assoc] at h
      exact absurd h.symm (quote_cons_ne_escape_append c _ _)
    | cons d second =>
      rw [List.flatMap_cons, List.flatMap_cons, List.append_assoc, List.append_assoc] at h
      obtain ⟨rfl, hrest⟩ := escape_append_inj h
      obtain ⟨rfl, hothers⟩ := ih hrest
      exact ⟨rfl, hothers⟩

/-- A quotation settles its text and where it ends. -/
theorem quoted_append_inj {first second rest others : Text}
    (h : quoted first ++ rest = quoted second ++ others) : first = second ∧ rest = others := by
  simp only [quoted, List.cons_append, List.append_assoc, List.nil_append, List.cons.injEq,
    true_and] at h
  exact flatMap_escape_append_inj h

/-! ## What can be seen -/

/-- The characters that are the same in all quotations. -/
theorem isHidden_frame {shown : Char} (h : shown ∈ ['"', '\\', 'u', '\x7b', '\x7d']) :
    isHidden shown = false := by
  have hall : (['"', '\\', 'u', '\x7b', '\x7d'].all fun shown => !isHidden shown) = true := by
    decide +kernel
  simpa only [Bool.not_eq_true'] using List.all_eq_true.mp hall shown h

theorem isHidden_of_mem_numbered {c shown : Char} (h : shown ∈ numbered c) :
    isHidden shown = false := by
  have hdigits : ∀ digit < 16, isHidden (Nat.digitChar digit) = false := by decide +kernel
  have hframe : ['\\', 'u', '\x7b'] ⊆ ['"', '\\', 'u', '\x7b', '\x7d'] := by decide
  rcases List.mem_append.mp h with hbefore | hclosing
  · rcases List.mem_append.mp hbefore with hopening | hdigit
    · exact isHidden_frame (hframe hopening)
    · obtain ⟨digit, hlt, rfl⟩ := exists_digitChar_of_mem_toDigits (by decide) hdigit
      exact hdigits digit hlt
  · exact isHidden_frame (by simp [List.mem_singleton.mp hclosing])

theorem isHidden_of_mem_escape {c shown : Char} (h : shown ∈ escape c) :
    isHidden shown = false := by
  have hletters : ∀ entry ∈ escapeLetters, isHidden entry.2 = false := by decide +kernel
  rcases escape_cases c with ⟨letter, hletter, hc⟩ | hc | ⟨-, hseen, hc⟩
  · rw [hc, List.mem_pair] at h
    rcases h with rfl | rfl
    · exact isHidden_frame (by decide)
    · exact hletters _ hletter
  · exact isHidden_of_mem_numbered (hc ▸ h)
  · rw [hc, List.mem_singleton] at h
    exact h ▸ hseen

/-- Every character of a quotation can be seen. -/
theorem isHidden_of_mem_quoted {text : Text} {shown : Char} (h : shown ∈ quoted text) :
    isHidden shown = false := by
  have hquote : isHidden '"' = false := isHidden_frame (by decide)
  rcases List.mem_append.mp h with hbefore | hclosing
  · rcases List.mem_cons.mp hbefore with rfl | hinside
    · exact hquote
    · obtain ⟨c, -, hshown⟩ := List.mem_flatMap.mp hinside
      exact isHidden_of_mem_escape hshown
  · exact List.mem_singleton.mp hclosing ▸ hquote

theorem newline_not_mem_quoted (text : Text) : '\n' ∉ quoted text := by
  intro h
  have hhidden : isHidden '\n' = true := by decide +kernel
  rw [isHidden_of_mem_quoted h] at hhidden
  cases hhidden

end Soundalike.Text
