import Soundalike.CommandLine.Program
import Soundalike.Proofs.ProgramAgreement
import Soundalike.Proofs.SourceCounts

set_option autoImplicit false

/-!
# Checking rule files

The program that checks rule files reports on each file that can be loaded and complains about each
other one, whatever becomes of the files before (`accountsFor_checkFiles`).  The files about
which it complains are those over which an encoding program fails, and the complaint is the same
(`exitCode_runEncode_named`, `errors_runEncode_named`).
-/

namespace Soundalike

/-! ## Files that are loaded -/

namespace File

variable {reader : Reader} {path : Text}

/-- A path can be loaded if it gives the UTF-8 form of a source of which every live line is a
statement. -/
def Loads (reader : Reader) (path : Text) : Prop :=
  ∃ source, reader path = .ok (Text.toUtf8 source) ∧
    ∀ line, Source.IsLive (Text.textLines source) line →
      Statement.IsFolding line.statement ∨ Statement.IsRule line.statement

theorem loads_iff : Loads reader path ↔ ∃ rules, readRules reader path = .ok rules := by
  simp only [Loads, ← Source.exists_statements_iff, readRules_eq_ok_iff,
    RuleSet.parse_eq_ok_iff_statements]
  constructor
  · rintro ⟨source, hsource, stated, hread⟩
    exact ⟨_, source, hsource, stated, hread, rfl⟩
  · rintro ⟨_, source, hsource, stated, hread, -⟩
    exact ⟨source, hsource, stated, hread⟩

theorem loads_of_ok {rules : RuleSet} (h : readRules reader path = .ok rules) :
    Loads reader path :=
  loads_iff.mpr ⟨rules, h⟩

theorem not_loads_of_error {error : RulesError} (h : readRules reader path = .error error) :
    ¬ Loads reader path := by
  intro hloads
  obtain ⟨rules, hrules⟩ := loads_iff.mp hloads
  rw [h] at hrules
  cases hrules

instance : Decidable (Loads reader path) :=
  match h : readRules reader path with
  | .ok _ => .isTrue (loads_of_ok h)
  | .error _ => .isFalse (not_loads_of_error h)

end File

namespace CommandLine

variable {reader : File.Reader} {path : Text} {paths : List Text}

/-! ## The lines of a file -/

/-- A report with its three numbers. -/
def reportLine (name : Text) (rules groups foldings : Nat) : Text :=
  let name := String.ofList name
  (s!"{name}: {rules} rules, {groups} pattern groups, {foldings} foldings").toList

/-- A line is the report on a file: it has the numbers of the rules of its source, of the letters
with which their patterns start, and of the letters that are folded. -/
def IsReportOn (reader : File.Reader) (path line : Text) : Prop :=
  ∃ source, reader path = .ok (Text.toUtf8 source) ∧
    line = reportLine path (Source.ruleLines source).ncard (Source.patternLetters source).ncard
      (Source.foldedLetters source).ncard

/-- A line is the complaint about a file: it has its path and what is wrong with it. -/
def IsComplaintAbout (reader : File.Reader) (path line : Text) : Prop :=
  ∃ error, File.readRules reader path = .error error ∧
    line = Outcome.errorLine (error.report path)

theorem isReportOn_report {rules : RuleSet} (h : File.readRules reader path = .ok rules) :
    IsReportOn reader path (report path rules) := by
  obtain ⟨source, hsource, hparse⟩ := File.readRules_eq_ok_iff.mp h
  refine ⟨source, hsource, ?_⟩
  rw [← RuleSet.table_size_of_parse hparse, ← RuleSet.table_groupCount_of_parse hparse,
    ← RuleSet.folding_size_of_parse hparse]
  rfl

/-! ## The account of a run -/

/-- A run accounts for files: it has a report on each that can be loaded and a complaint about each
other one, both in the order of the files, and its exit code says whether there is a complaint. -/
structure AccountsFor (reader : File.Reader) (paths : List Text) (outcome : Outcome) : Prop where
  reports : List.Forall₂ (IsReportOn reader) (paths.filter (File.Loads reader ·)) outcome.output
  complaints : List.Forall₂ (IsComplaintAbout reader) (paths.filter (¬ File.Loads reader ·))
    outcome.errors
  exitCode : outcome.exitCode = if ∃ path ∈ paths, ¬ File.Loads reader path then 1 else 0

namespace AccountsFor

variable {later : Outcome}

theorem nil : AccountsFor reader [] (.printing []) :=
  ⟨.nil, .nil, rfl⟩

/-- A file that is loaded adds its report. -/
theorem loaded {line : Text} (h : AccountsFor reader paths later) (hloads : File.Loads reader path)
    (hreport : IsReportOn reader path line) :
    AccountsFor reader (path :: paths) { later with output := line :: later.output } where
  reports := by
    rw [List.filter_cons_of_pos (by simpa using hloads)]
    exact .cons hreport h.reports
  complaints := by
    rw [List.filter_cons_of_neg (by simpa using hloads)]
    exact h.complaints
  exitCode := by
    simp only [List.exists_mem_cons_iff, hloads, not_true_eq_false, false_or]
    exact h.exitCode

/-- A file that is not loaded adds its complaint and decides the exit code. -/
theorem failed {line : Text} (h : AccountsFor reader paths later)
    (hfails : ¬ File.Loads reader path) (hcomplaint : IsComplaintAbout reader path line) :
    AccountsFor reader (path :: paths)
      { later with errors := line :: later.errors, exitCode := 1 } where
  reports := by
    rw [List.filter_cons_of_neg (by simpa using hfails)]
    exact h.reports
  complaints := by
    rw [List.filter_cons_of_pos (by simpa using hfails)]
    exact .cons hcomplaint h.complaints
  exitCode := (if_pos ⟨path, List.mem_cons_self, hfails⟩).symm

end AccountsFor

/-- Files are accounted for one by one. -/
theorem accountsFor_checkFiles (reader : File.Reader) (paths : List Text) :
    AccountsFor reader paths (checkFiles reader paths) := by
  induction paths with
  | nil => exact .nil
  | cons path paths ih =>
    rw [checkFiles]
    cases hread : File.readRules reader path with
    | ok rules => exact ih.loaded (File.loads_of_ok hread) (isReportOn_report hread)
    | error error =>
      exact ih.failed (File.not_loads_of_error hread) ⟨error, hread, rfl⟩

/-! ## Encoding over a file -/

section

variable {given : List Text} {around : Surroundings}

/-- Names after a rule file are encoded over this file. -/
theorem runEncode_named (hpath : path ≠ []) (hgiven : ∀ name ∈ given, name.head? ≠ some '-')
    (around : Surroundings) :
    runEncode ("-r".toList :: path :: given) around =
      match File.readRules around.reader path with
      | .error error => .failing (error.report path)
      | .ok rules => printNames .single ⟨rules, true⟩ (chosenNames given around.input) := by
  have hscan : Arguments.scan ("-r".toList :: path :: given) = .ok ⟨some path, given⟩ := by
    rw [Arguments.scan_cons_of_isRulesFlag rfl rfl,
      Arguments.scan_of_plain fun name hname => isPlain_of_head?_ne (hgiven name hname)]
    rfl
  have hhelp : wantsHelp given = false :=
    any_append_names hgiven (fun _ => head?_of_isEither rfl rfl) []
  have hfolding : wantsFolding given = true :=
    congrArg not (any_append_names hgiven (fun _ => head?_of_is rfl) [])
  have hchosen : File.chosenPath (some path) around.rulesPath = some path :=
    if_pos (decide_eq_true hpath)
  rw [runEncode_eq_loadAndPrint hscan hhelp, loadAndPrint, hchosen, hfolding, File.loadEncoder]
  cases File.readRules around.reader path with
  | error error => rfl
  | ok rules => rfl

theorem exitCode_runEncode_named (hpath : path ≠ [])
    (hgiven : ∀ name ∈ given, name.head? ≠ some '-') (around : Surroundings) :
    (runEncode ("-r".toList :: path :: given) around).exitCode = 1 ↔
      ¬ File.Loads around.reader path := by
  rw [runEncode_named hpath hgiven]
  cases hread : File.readRules around.reader path with
  | ok rules =>
    refine ⟨fun hcode => ?_, fun hfails => absurd (File.loads_of_ok hread) hfails⟩
    cases hcode
  | error error => exact ⟨fun _ => File.not_loads_of_error hread, fun _ => rfl⟩

theorem errors_runEncode_named {line : Text} (hpath : path ≠ [])
    (hgiven : ∀ name ∈ given, name.head? ≠ some '-')
    (hline : IsComplaintAbout around.reader path line) :
    (runEncode ("-r".toList :: path :: given) around).errors = [line] := by
  obtain ⟨error, hread, rfl⟩ := hline
  rw [runEncode_named hpath hgiven, hread]
  rfl

/-- Whatever files are checked, the checking program reports on those that can be loaded, with the
numbers of their statements, and complains about the others.  An encoding program over one of these
files fails exactly if it cannot be loaded, and then with the complaint of the checking program. -/
theorem runRulesCheck_agrees_with_runEncode (hne : paths ≠ []) (hpaths : ∀ path ∈ paths, path ≠ [])
    (hhelp : wantsHelp paths = false) (reader : File.Reader) :
    AccountsFor reader paths (runRulesCheck paths reader) ∧
      ∀ path ∈ paths, ∀ given : List Text, (∀ name ∈ given, name.head? ≠ some '-') →
        ∀ around : Surroundings, around.reader = reader →
          let run := runEncode ("-r".toList :: path :: given) around
          (run.exitCode = 1 ↔ ¬ File.Loads reader path) ∧
            ∀ line, IsComplaintAbout reader path line → run.errors = [line] := by
  constructor
  · rw [runRulesCheck, if_neg (ne_true_of_eq_false hhelp), if_neg hne]
    exact accountsFor_checkFiles reader paths
  · rintro path hmem given hgiven around rfl
    exact ⟨exitCode_runEncode_named (hpaths path hmem) hgiven around,
      fun line hline => errors_runEncode_named (hpaths path hmem) hgiven hline⟩

/-- A file that is not there, one with rules and a folding under a comment, and one whose second
line is no statement. -/
theorem runRulesCheck_agrees_with_runEncode_three_files :
    let good := "// c\nA 0 1 2\n\"ab\" 7 7 7\nb 1|2 \"\" 3\nä = a\nä = e\n".toList
    let bad := "a 1 2 3\nb 1\n".toList
    let reader : File.Reader := fun path =>
      if path = "good".toList then .ok (Text.toUtf8 good)
      else if path = "bad".toList then .ok (Text.toUtf8 bad)
      else .error .notFound
    let paths := ["none".toList, "good".toList, "bad".toList]
    let unread :=
      "error: none: failed to read rule source none: No such file or directory (os error 2)".toList
    let complaint := "error: bad: line 2: malformed rule statement split into 2 parts: b 1".toList
    let report := "good: 3 rules, 2 pattern groups, 1 foldings".toList
    AccountsFor reader paths ⟨[report], [unread, complaint], 1⟩ ∧
      (runEncode ["-r".toList, "bad".toList, "Peters".toList] ⟨none, reader, []⟩).errors =
        [complaint] := by
  intro good bad reader paths unread complaint report
  have hne : paths ≠ [] := List.cons_ne_nil _ _
  obtain ⟨haccount, hencode⟩ :=
    runRulesCheck_agrees_with_runEncode hne (by decide) (by decide +kernel) reader
  have hrun : runRulesCheck paths reader = ⟨[report], [unread, complaint], 1⟩ := by
    decide +kernel
  let error : SourceError := ⟨2, "b 1".toList, .malformedRule 2⟩
  have hstatements : Source.statements bad = .error error := by decide +kernel
  have htext : File.readText reader "bad".toList = .ok bad :=
    File.readText_eq_ok_iff.mpr (by decide +kernel)
  have hread : File.readRules reader "bad".toList = .error (.malformed error) := by
    rw [File.readRules_of_readText htext, RuleSet.parse, hstatements]
    rfl
  have hbad : IsComplaintAbout reader "bad".toList complaint :=
    ⟨_, hread, by decide +kernel⟩
  obtain ⟨-, hcomplaint⟩ :=
    hencode "bad".toList (by decide) ["Peters".toList] (by decide) ⟨none, reader, []⟩ rfl
  exact ⟨hrun ▸ haccount, hcomplaint complaint hbad⟩

end

end CommandLine

end Soundalike
