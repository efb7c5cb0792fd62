import Soundalike.CommandLine.Arguments

set_option autoImplicit false

/-!
# Scanning more arguments

Arguments that can be scanned may be followed by others: the later ones are scanned on their own,
and what is found in them comes after what was found before (`scan_append`).  Where they name no
rule file they are all left over (`scan_append_of_plain`).

`Reads` says what arguments are when they are read from left to right, each flag with the argument
after it.  The scan finds exactly that (`scan_eq_ok_iff`), and fails exactly where a flag is left
without an argument after it (`scan_eq_error_iff`).
-/

namespace Soundalike.CommandLine

/-- An argument that neither names a rule file nor lets the next one name it. -/
def IsPlain (argument : Text) : Prop := inlinePath? argument = none ∧ isRulesFlag argument = false

/-- A flag that takes the next argument for the path of a rule file. -/
def IsBareFlag (argument : Text) : Prop := argument = "-r".toList ∨ argument = "--rules".toList

/-- An argument that names a rule file itself, or lets the next one name it. -/
def NamesRules (argument : Text) : Prop := IsBareFlag argument ∨ "--rules=".toList <+: argument

theorem isRulesFlag_iff {argument : Text} : isRulesFlag argument = true ↔ IsBareFlag argument := by
  rw [isRulesFlag, Bool.or_eq_true, decide_eq_true_eq, decide_eq_true_eq, IsBareFlag, or_comm]

theorem inlinePath?_eq_some_iff {argument path : Text} :
    inlinePath? argument = some path ↔ argument = "--rules=".toList ++ path := by
  rw [inlinePath?, Option.ite_none_right_eq_some, List.isPrefixOf_iff_prefix, Option.some_inj]
  constructor
  · rintro ⟨⟨rest, rfl⟩, rfl⟩
    rfl
  · rintro rfl
    exact ⟨List.prefix_append _ _, rfl⟩

theorem inlinePath?_eq_none_iff {argument : Text} :
    inlinePath? argument = none ↔ ¬ "--rules=".toList <+: argument := by
  rw [inlinePath?, ite_eq_right_iff, List.isPrefixOf_iff_prefix]
  exact forall_congr' fun _ => iff_of_false (Option.some_ne_none _) id

/-- Of a flag and an argument that starts with a flag and an equals sign neither is the other. -/
theorem inlinePath?_of_isBareFlag {flag : Text} (h : IsBareFlag flag) :
    inlinePath? flag = none := by
  rcases h with rfl | rfl
  · rfl
  · rfl

theorem isPlain_iff {argument : Text} : IsPlain argument ↔ ¬ NamesRules argument := by
  rw [IsPlain, NamesRules, inlinePath?_eq_none_iff, not_or, ← isRulesFlag_iff,
    Bool.not_eq_true, and_comm]

/-- An argument that is a flag starts as the flag does. -/
theorem head?_of_is {flag argument : Text} {c : Char} (hflag : flag.head? = some c)
    (h : decide (argument = flag) = true) : argument.head? = some c := by
  rw [of_decide_eq_true h, hflag]

theorem head?_of_isEither {long short argument : Text} {c : Char} (hlong : long.head? = some c)
    (hshort : short.head? = some c) (h : (argument = long || argument = short) = true) :
    argument.head? = some c :=
  (Bool.or_eq_true_iff.mp h).elim (head?_of_is hlong) (head?_of_is hshort)

/-- Whatever names a rule file starts with a hyphen. -/
theorem isPlain_of_head?_ne {argument : Text} (h : argument.head? ≠ some '-') :
    IsPlain argument := by
  refine ⟨if_neg fun hpath => h ?_, Bool.eq_false_iff.mpr fun hflag => h ?_⟩
  · obtain ⟨path, rfl⟩ := List.isPrefixOf_iff_prefix.mp hpath
    rfl
  · exact head?_of_isEither rfl rfl hflag

namespace Arguments

/-! ## One argument -/

theorem scan_cons_of_inlinePath {argument path : Text} (h : inlinePath? argument = some path)
    (rest : List Text) : scan (argument :: rest) = (scan rest).map (·.namedBefore path) := by
  rw [scan.eq_def]
  dsimp only
  rw [h]

theorem scan_cons_of_isRulesFlag {argument : Text} (hpath : inlinePath? argument = none)
    (hflag : isRulesFlag argument = true) (path : Text) (rest : List Text) :
    scan (argument :: path :: rest) = (scan rest).map (·.namedBefore path) := by
  rw [scan.eq_def]
  dsimp only
  rw [hpath]
  dsimp only
  rw [if_pos hflag]

theorem scan_cons_of_isPlain {argument : Text} (h : IsPlain argument) (rest : List Text) :
    scan (argument :: rest) = (scan rest).map (·.after argument) := by
  obtain ⟨hpath, hflag⟩ := h
  rw [scan.eq_def]
  dsimp only
  rw [hpath]
  dsimp only
  rw [if_neg (ne_true_of_eq_false hflag)]

theorem scan_last_flag {flag : Text} (h : IsBareFlag flag) : scan [flag] = .error ⟨flag⟩ := by
  rw [scan.eq_def]
  dsimp only
  rw [inlinePath?_of_isBareFlag h]
  dsimp only
  rw [if_pos (isRulesFlag_iff.mpr h)]

/-! ## Two lists of arguments -/

/-- Two scans as one: of the rule files the later counts, and what is left over stands in order. -/
def followedBy (earlier later : Arguments) : Arguments :=
  ⟨later.rulesPath.or earlier.rulesPath, earlier.remaining ++ later.remaining⟩

theorem nothing_followedBy (later : Arguments) : followedBy ⟨none, []⟩ later = later := by
  rw [followedBy, Option.or_none, List.nil_append]

theorem namedBefore_followedBy (earlier later : Arguments) (path : Text) :
    (earlier.namedBefore path).followedBy later = (earlier.followedBy later).namedBefore path := by
  simp only [followedBy, namedBefore, Option.or_assoc]

theorem after_followedBy (earlier later : Arguments) (argument : Text) :
    (earlier.after argument).followedBy later = (earlier.followedBy later).after argument := rfl

/-- What one argument does to a scan, it does to the whole of two lists as to the first alone. -/
theorem map_followedBy {change : Arguments → Arguments}
    (hchange : ∀ earlier later,
      (change earlier).followedBy later = change (earlier.followedBy later))
    {first : Except MissingValue Arguments} {scanned : Arguments}
    (hfirst : first.map change = .ok scanned) {second both : Except MissingValue Arguments}
    (hboth : ∀ earlier, first = .ok earlier → both = second.map earlier.followedBy) :
    both.map change = second.map scanned.followedBy := by
  cases first with
  | error error => cases hfirst
  | ok earlier =>
    obtain rfl : change earlier = scanned := Except.ok.inj hfirst
    rw [hboth earlier rfl]
    cases second with
    | error error => rfl
    | ok later => exact congrArg Except.ok (hchange earlier later).symm

/-- Arguments after others that can be scanned are scanned on their own. -/
theorem scan_append {first : List Text} {scanned : Arguments} (h : scan first = .ok scanned)
    (second : List Text) : scan (first ++ second) = (scan second).map scanned.followedBy := by
  fun_induction scan first generalizing scanned with
  | case1 =>
    obtain rfl : ⟨none, []⟩ = scanned := Except.ok.inj h
    rw [List.nil_append, funext nothing_followedBy]
    exact (congrFun Except.map_id _).symm
  | case2 argument rest path hpath ih =>
    rw [List.cons_append, scan_cons_of_inlinePath hpath]
    exact map_followedBy (namedBefore_followedBy · · path) h fun _ => ih
  | case3 argument hpath hflag => cases h
  | case4 argument hpath hflag path rest ih =>
    rw [List.cons_append, List.cons_append, scan_cons_of_isRulesFlag hpath hflag]
    exact map_followedBy (namedBefore_followedBy · · path) h fun _ => ih
  | case5 argument rest hpath hflag ih =>
    rw [List.cons_append, scan_cons_of_isPlain ⟨hpath, Bool.eq_false_iff.mpr hflag⟩]
    exact map_followedBy (after_followedBy · · argument) h fun _ => ih

theorem scan_of_plain {arguments : List Text} (h : ∀ argument ∈ arguments, IsPlain argument) :
    scan arguments = .ok ⟨none, arguments⟩ := by
  induction arguments with
  | nil => rfl
  | cons argument rest ih =>
    obtain ⟨hplain, hrest⟩ := List.forall_mem_cons.mp h
    rw [scan_cons_of_isPlain hplain, ih hrest]
    rfl

/-- Plain arguments after others are left over after what the others leave. -/
theorem scan_append_of_plain {first : List Text} {path : Option Text} {remaining : List Text}
    (h : scan first = .ok ⟨path, remaining⟩) {second : List Text}
    (hplain : ∀ argument ∈ second, IsPlain argument) :
    scan (first ++ second) = .ok ⟨path, remaining ++ second⟩ := by
  rw [scan_append h, scan_of_plain hplain]
  rfl

/-! ## Reading from left to right -/

/-- What is found in arguments that are read from left to right. -/
inductive Reads : List Text → Arguments → Prop
  | nil : Reads [] ⟨none, []⟩
  /-- an argument may hold the path of a rule file itself -/
  | inline (path : Text) {rest : List Text} {later : Arguments} (hrest : Reads rest later) :
      Reads (("--rules=".toList ++ path) :: rest) (later.namedBefore path)
  /-- a flag takes the next argument for the path, whatever that looks like -/
  | flag {flag : Text} (hflag : IsBareFlag flag) (path : Text) {rest : List Text}
      {later : Arguments} (hrest : Reads rest later) :
      Reads (flag :: path :: rest) (later.namedBefore path)
  /-- any other argument is left over -/
  | other {argument : Text} (hother : ¬ NamesRules argument) {rest : List Text}
      {later : Arguments} (hrest : Reads rest later) :
      Reads (argument :: rest) (later.after argument)

theorem exists_of_map_eq_ok {scanned : Except MissingValue Arguments}
    {change : Arguments → Arguments} {changed : Arguments} (h : scanned.map change = .ok changed) :
    ∃ found, scanned = .ok found ∧ change found = changed := by
  cases scanned with
  | error error => cases h
  | ok found => exact ⟨found, rfl, Except.ok.inj h⟩

theorem eq_error_of_map_eq_error {scanned : Except MissingValue Arguments}
    {change : Arguments → Arguments} {error : MissingValue}
    (h : scanned.map change = .error error) : scanned = .error error := by
  cases scanned with
  | error found => exact congrArg Except.error (Except.error.inj h)
  | ok found => cases h

theorem scan_of_reads {arguments : List Text} {found : Arguments} (h : Reads arguments found) :
    scan arguments = .ok found := by
  induction h with
  | nil => rfl
  | inline path _ ih =>
    rw [scan_cons_of_inlinePath (inlinePath?_eq_some_iff.mpr rfl), ih]
    rfl
  | flag hflag path _ ih =>
    rw [scan_cons_of_isRulesFlag (inlinePath?_of_isBareFlag hflag) (isRulesFlag_iff.mpr hflag), ih]
    rfl
  | other hother _ ih =>
    rw [scan_cons_of_isPlain (isPlain_iff.mpr hother), ih]
    rfl

/-- What the scan finds is what is read from left to right. -/
theorem scan_eq_ok_iff {arguments : List Text} {found : Arguments} :
    scan arguments = .ok found ↔ Reads arguments found := by
  refine ⟨fun h => ?_, scan_of_reads⟩
  fun_induction scan arguments generalizing found with
  | case1 =>
    cases h
    exact .nil
  | case2 argument rest path hpath ih =>
    obtain ⟨later, hlater, rfl⟩ := exists_of_map_eq_ok h
    obtain rfl := inlinePath?_eq_some_iff.mp hpath
    exact .inline path (ih hlater)
  | case3 argument hpath hflag => cases h
  | case4 argument hpath hflag path rest ih =>
    obtain ⟨later, hlater, rfl⟩ := exists_of_map_eq_ok h
    exact .flag (isRulesFlag_iff.mp hflag) path (ih hlater)
  | case5 argument rest hpath hflag ih =>
    obtain ⟨later, hlater, rfl⟩ := exists_of_map_eq_ok h
    exact .other (isPlain_iff.mp ⟨hpath, Bool.eq_false_iff.mpr hflag⟩) (ih hlater)

/-- The scan fails where a flag stands last and everything before it is read. -/
theorem scan_eq_error_iff {arguments : List Text} {error : MissingValue} :
    scan arguments = .error error ↔
      ∃ before found, arguments = before ++ [error.flag] ∧ Reads before found ∧
        IsBareFlag error.flag := by
  constructor
  · intro h
    -- by the cases of the scan, each of which reads one more item in front of the last flag
    fun_induction scan arguments with
    | case1 => cases h
    | case2 argument rest path hpath ih =>
      obtain ⟨before, found, rfl, hbefore, hflag⟩ := ih (eq_error_of_map_eq_error h)
      obtain rfl := inlinePath?_eq_some_iff.mp hpath
      exact ⟨_ :: before, _, rfl, .inline path hbefore, hflag⟩
    | case3 argument hpath hflag =>
      cases h
      exact ⟨[], _, rfl, .nil, isRulesFlag_iff.mp hflag⟩
    | case4 argument hpath hflag path rest ih =>
      obtain ⟨before, found, rfl, hbefore, hlast⟩ := ih (eq_error_of_map_eq_error h)
      exact ⟨argument :: path :: before, _, rfl, .flag (isRulesFlag_iff.mp hflag) path hbefore,
        hlast⟩
    | case5 argument rest hpath hflag ih =>
      obtain ⟨before, found, rfl, hbefore, hlast⟩ := ih (eq_error_of_map_eq_error h)
      have hother := isPlain_iff.mp ⟨hpath, Bool.eq_false_iff.mpr hflag⟩
      exact ⟨argument :: before, _, rfl, .other hother hbefore, hlast⟩
  · rintro ⟨before, found, rfl, hbefore, hflag⟩
    rw [scan_append (scan_of_reads hbefore), scan_last_flag hflag]
    rfl

/-- What is left over stands among the arguments, and names no rule file. -/
theorem Reads.remaining {arguments : List Text} {found : Arguments} (h : Reads arguments found) :
    found.remaining.Sublist arguments ∧ ∀ argument ∈ found.remaining, ¬ NamesRules argument := by
  induction h with
  | nil => exact ⟨List.Sublist.slnil, List.forall_mem_nil _⟩
  | inline path _ ih => exact ih.imp_left fun hrest => hrest.cons _
  | flag hflag path _ ih => exact ih.imp_left fun hrest => (hrest.cons _).cons _
  | other hother _ ih =>
    obtain ⟨hrest, hplain⟩ := ih
    exact ⟨hrest.cons_cons _, List.forall_mem_cons.mpr ⟨hother, hplain⟩⟩

/-- Arguments after others that can be scanned are scanned like the later ones alone: they fail
alike, and otherwise the rule file that is named later counts, and what is left over of both lists
stands in order.  What is left over of a list is part of it, names no rule file, and is left over
again.  The scan finds what is read from left to right, and it fails exactly if a flag stands last
after arguments that are read. -/
theorem scan_laws :
    (∀ first scanned, scan first = .ok scanned →
      (∀ second error, scan (first ++ second) = .error error ↔ scan second = .error error) ∧
      (∀ second later, scan second = .ok later →
        scan (first ++ second) =
          .ok ⟨later.rulesPath.or scanned.rulesPath, scanned.remaining ++ later.remaining⟩) ∧
      scanned.remaining.Sublist first ∧
      (∀ argument ∈ scanned.remaining, ¬ NamesRules argument) ∧
      scan scanned.remaining = .ok ⟨none, scanned.remaining⟩) ∧
    (∀ arguments found, scan arguments = .ok found ↔ Reads arguments found) ∧
    ∀ arguments error, scan arguments = .error error ↔
      ∃ before found, arguments = before ++ [error.flag] ∧ Reads before found ∧
        IsBareFlag error.flag := by
  refine ⟨fun first scanned h => ?_, fun _ _ => scan_eq_ok_iff, fun _ _ => scan_eq_error_iff⟩
  obtain ⟨hsublist, hothers⟩ := (scan_eq_ok_iff.mp h).remaining
  refine ⟨fun second error => ?_, fun second later hlater => ?_, hsublist, hothers, ?_⟩
  · rw [scan_append h]
    exact ⟨eq_error_of_map_eq_error, fun herror => congrArg (Except.map _) herror⟩
  · rw [scan_append h, hlater]
    rfl
  · exact scan_of_plain fun argument hmem => isPlain_iff.mpr (hothers argument hmem)

/-- The first flag takes the second one for its path, which a later path replaces; a third flag is
left without one. -/
theorem scan_laws_flag_as_path :
    scan ["-r".toList, "--rules".toList, "x".toList] = .ok ⟨some "--rules".toList, ["x".toList]⟩ ∧
      scan ["-r".toList, "--rules".toList, "x".toList, "--rules=b".toList, "y".toList] =
        .ok ⟨some "b".toList, ["x".toList, "y".toList]⟩ ∧
      scan ["-r".toList, "--rules".toList, "x".toList, "-r".toList] = .error ⟨"-r".toList⟩ := by
  obtain ⟨hfollowed, hreads, hfails⟩ := scan_laws
  have hx : ¬ NamesRules "x".toList := isPlain_iff.mp (isPlain_of_head?_ne (by decide))
  have hy : ¬ NamesRules "y".toList := isPlain_iff.mp (isPlain_of_head?_ne (by decide))
  have hfirst : scan ["-r".toList, "--rules".toList, "x".toList] =
      .ok ⟨some "--rules".toList, ["x".toList]⟩ :=
    (hreads _ _).mpr (.flag (Or.inl rfl) _ (.other hx .nil))
  have hsecond : scan ["--rules=b".toList, "y".toList] = .ok ⟨some "b".toList, ["y".toList]⟩ :=
    (hreads _ _).mpr (.inline "b".toList (.other hy .nil))
  have hlast : scan ["-r".toList] = .error ⟨"-r".toList⟩ :=
    (hfails _ _).mpr ⟨[], _, rfl, .nil, Or.inl rfl⟩
  obtain ⟨herrors, hscans, -⟩ := hfollowed _ _ hfirst
  exact ⟨hfirst, hscans _ _ hsecond, (herrors _ _).mpr hlast⟩

end Arguments

/-! ## Flags -/

/-- Further arguments of which none is a flag do not raise it. -/
theorem any_append_of_forall_eq_false {flag : Text → Bool} {second : List Text}
    (h : ∀ argument ∈ second, flag argument = false) (first : List Text) :
    (first ++ second).any flag = first.any flag := by
  have hsecond : second.any flag = false :=
    List.any_eq_false.mpr fun argument hmem => ne_true_of_eq_false (h argument hmem)
  rw [List.any_append, hsecond, Bool.or_false]

/-- Names raise no flag. -/
theorem any_append_names {given : List Text} (hgiven : ∀ name ∈ given, name.head? ≠ some '-')
    {flag : Text → Bool} (hflag : ∀ argument, flag argument = true → argument.head? = some '-')
    (first : List Text) : (first ++ given).any flag = first.any flag := by
  refine any_append_of_forall_eq_false (fun name hname => ?_) first
  exact Bool.eq_false_iff.mpr fun hraised => hgiven name hname (hflag name hraised)

end Soundalike.CommandLine
