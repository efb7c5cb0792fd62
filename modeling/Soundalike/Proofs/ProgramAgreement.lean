import Mathlib.Data.List.TakeWhile
import Soundalike.CommandLine.Encoding
import Soundalike.File.Rules
import Soundalike.Proofs.Agreement
import Soundalike.Proofs.JoinedCodes
import Soundalike.Proofs.LiveBranches
import Soundalike.Proofs.ScannedArguments

set_option autoImplicit false

/-!
# The encoding programs agree

Once the arguments are scanned and no help is asked for, the encoding programs load the same rules,
choose the same names and differ in the layout of what they print only (`loadAndPrint`).  So all of
them end alike, and what one prints for a name can be told from what another prints for it
(`programs_agree`).
-/

namespace Soundalike

/-! ## The first code -/

/-- What stands before the first bar is the first code. -/
theorem Code.takeWhile_join {code : Code} (h : bar ∉ code) (rest : List Code) :
    (join (code :: rest)).takeWhile (· ≠ bar) = code := by
  have hcode : ∀ c ∈ code, decide (c ≠ bar) = true := by
    intro c hc
    exact decide_eq_true fun heq => h (heq ▸ hc)
  cases rest with
  | nil => exact List.takeWhile_eq_self_iff.mpr hcode
  | cons next rest =>
    rw [join, Text.join, List.takeWhile_append_of_pos hcode, List.takeWhile_cons_of_neg (by simp),
      List.append_nil]

/-- The code that follows the first alternatives is what stands before the first bar. -/
theorem Encoder.takeWhile_soundex (encoder : Encoder) (name : Text) :
    (encoder.soundex name).takeWhile (· ≠ Code.bar) = encoder.encode name := by
  have hfirst := encoder.head?_run name .first
  have hevery := encoder.head?_run name .every
  obtain ⟨rest, hcodes⟩ := List.head?_eq_some_iff.mp hevery
  have hbar := encoder.bar_not_mem_of_mem_run name (hcodes ▸ List.mem_cons_self)
  rw [soundex, codes, hcodes, Code.takeWhile_join hbar, encode, List.headD_eq_head?_getD, hfirst]
  rfl

namespace CommandLine

/-! ## Runs after the scan -/

/-- What an encoding program does with scanned arguments among which no help is asked for. -/
def loadAndPrint (layout : Layout) (scanned : Arguments) (around : Surroundings) : Outcome :=
  match File.loadEncoder around.reader (File.chosenPath scanned.rulesPath around.rulesPath)
      (wantsFolding scanned.remaining) with
  | .error (path, error) => .failing (error.report path)
  | .ok (encoder, _) => printNames layout encoder (chosenNames scanned.remaining around.input)

/-- The names that a run treats: those that it chooses, unless its rules cannot be loaded. -/
def treatedNames (scanned : Arguments) (around : Surroundings) : List Text :=
  match File.loadEncoder around.reader (File.chosenPath scanned.rulesPath around.rulesPath)
      (wantsFolding scanned.remaining) with
  | .error _ => []
  | .ok _ => (chosenNames scanned.remaining around.input).names

section

variable {arguments : List Text} {scanned : Arguments}

theorem runEncoding_eq_loadAndPrint (help : List Text) (layout : List Text → Layout)
    (hscan : Arguments.scan arguments = .ok scanned) (hhelp : wantsHelp scanned.remaining = false)
    (around : Surroundings) :
    runEncoding help layout arguments around =
      loadAndPrint (layout scanned.remaining) scanned around := by
  rw [runEncoding, hscan]
  dsimp only
  rw [hhelp]
  rfl

theorem runEncode_eq_loadAndPrint (hscan : Arguments.scan arguments = .ok scanned)
    (hhelp : wantsHelp scanned.remaining = false) (around : Surroundings) :
    runEncode arguments around = loadAndPrint .single scanned around :=
  runEncoding_eq_loadAndPrint _ _ hscan hhelp around

theorem runSoundex_eq_loadAndPrint (hscan : Arguments.scan arguments = .ok scanned)
    (hhelp : wantsHelp scanned.remaining = false) (around : Surroundings) :
    runSoundex arguments around =
      loadAndPrint (if wantsSplit scanned.remaining then .split else .joined) scanned around :=
  runEncoding_eq_loadAndPrint _ _ hscan hhelp around

/-- A run depends on its arguments only as far as they choose rules, folding and names. -/
theorem loadAndPrint_congr (layout : Layout) {first second : Arguments}
    {firstAround secondAround : Surroundings} (hreader : firstAround.reader = secondAround.reader)
    (hpath : File.chosenPath first.rulesPath firstAround.rulesPath =
      File.chosenPath second.rulesPath secondAround.rulesPath)
    (hfolding : wantsFolding first.remaining = wantsFolding second.remaining)
    (hnames : chosenNames first.remaining firstAround.input =
      chosenNames second.remaining secondAround.input) :
    loadAndPrint layout first firstAround = loadAndPrint layout second secondAround := by
  rw [loadAndPrint, loadAndPrint, hreader, hpath, hfolding, hnames]

/-! ## What does not depend on the layout -/

theorem exitCode_loadAndPrint (first second : Layout) (scanned : Arguments)
    (around : Surroundings) :
    (loadAndPrint first scanned around).exitCode =
      (loadAndPrint second scanned around).exitCode := by
  rw [loadAndPrint, loadAndPrint]
  split
  · rfl
  · rfl

theorem stderr_loadAndPrint (first second : Layout) (scanned : Arguments)
    (around : Surroundings) :
    (loadAndPrint first scanned around).stderr = (loadAndPrint second scanned around).stderr := by
  rw [loadAndPrint, loadAndPrint]
  split
  · rfl
  · rfl

/-- Every layout prints its rows for the same names, with the same encoder. -/
theorem exists_encoder_output_loadAndPrint (scanned : Arguments) (around : Surroundings) :
    ∃ encoder : Encoder, ∀ layout : Layout, (loadAndPrint layout scanned around).output =
      (treatedNames scanned around).flatMap (layout.rows encoder) := by
  cases hload : File.loadEncoder around.reader
      (File.chosenPath scanned.rulesPath around.rulesPath) (wantsFolding scanned.remaining) with
  | error failure =>
    refine ⟨default, fun layout => ?_⟩
    rw [loadAndPrint, treatedNames, hload]
    rfl
  | ok loaded =>
    refine ⟨loaded.1, fun layout => ?_⟩
    rw [loadAndPrint, treatedNames, hload]
    rfl

/-! ## Splitting -/

/-- The flag that asks for each code on a line of its own. -/
def splitFlag : Text := "--split".toList

theorem isPlain_splitFlag : IsPlain splitFlag := ⟨by decide +kernel, by decide +kernel⟩

theorem any_append_splitFlag {flag : Text → Bool} (h : flag splitFlag = false)
    (remaining : List Text) : (remaining ++ [splitFlag]).any flag = remaining.any flag :=
  any_append_of_forall_eq_false (List.forall_mem_singleton.mpr h) remaining

/-- The flag is no name and asks for splitting only. -/
theorem loadAndPrint_append_splitFlag (layout : Layout) (path : Option Text) (remaining : List Text)
    (around : Surroundings) :
    loadAndPrint layout ⟨path, remaining ++ [splitFlag]⟩ around =
      loadAndPrint layout ⟨path, remaining⟩ around := by
  have hnames : names (remaining ++ [splitFlag]) = names remaining := by
    have hflag : names [splitFlag] = [] := by decide +kernel
    rw [names, List.filter_append, ← names, ← names, hflag, List.append_nil]
  refine loadAndPrint_congr layout rfl rfl ?_ ?_
  · exact congrArg not (any_append_splitFlag (by decide +kernel) remaining)
  · rw [chosenNames, chosenNames, hnames]

/-- Whatever the arguments, the rules and the input are, the program that prints one code for each
name and the one that prints all codes, on one line or on a line each, end with the same exit code
and the same complaints, and treat the same names in the same order.  The one code of a name is what
stands before the first bar of the field with all codes, and the lines of a name are those of the
codes into which that field is split. -/
theorem programs_agree (hscan : Arguments.scan arguments = .ok scanned)
    (hhelp : wantsHelp scanned.remaining = false) (hsplit : wantsSplit scanned.remaining = false)
    (around : Surroundings) :
    let encode := runEncode arguments around
    let soundex := runSoundex arguments around
    let split := runSoundex (arguments ++ [splitFlag]) around
    (encode.exitCode = soundex.exitCode ∧ split.exitCode = soundex.exitCode) ∧
      (encode.stderr = soundex.stderr ∧ split.stderr = soundex.stderr) ∧
      ∃ field : Text → Text,
        soundex.output = (treatedNames scanned around).map (fun name => row name (field name)) ∧
        encode.output = (treatedNames scanned around).map (fun name =>
          row name ((field name).takeWhile (· ≠ Code.bar))) ∧
        split.output = (treatedNames scanned around).flatMap (fun name =>
          (Code.split (field name)).map (row name)) := by
  obtain ⟨path, remaining⟩ := scanned
  have hflag : ∀ argument ∈ [splitFlag], IsPlain argument :=
    List.forall_mem_singleton.mpr isPlain_splitFlag
  have hscanSplit : Arguments.scan (arguments ++ [splitFlag]) =
      .ok ⟨path, remaining ++ [splitFlag]⟩ :=
    Arguments.scan_append_of_plain hscan hflag
  have hhelpSplit : wantsHelp (remaining ++ [splitFlag]) = false :=
    (any_append_splitFlag (by decide +kernel) remaining).trans hhelp
  have hwants : wantsSplit (remaining ++ [splitFlag]) = true :=
    List.any_eq_true.mpr ⟨splitFlag, List.mem_append_right _ List.mem_cons_self, by decide +kernel⟩
  intro encode soundex split
  have hencode : encode = loadAndPrint .single ⟨path, remaining⟩ around :=
    runEncode_eq_loadAndPrint hscan hhelp around
  have hsoundex : soundex = loadAndPrint .joined ⟨path, remaining⟩ around := by
    have h := runSoundex_eq_loadAndPrint hscan hhelp around
    rwa [hsplit] at h
  have hsplitRun : split = loadAndPrint .split ⟨path, remaining⟩ around := by
    have h := runSoundex_eq_loadAndPrint hscanSplit hhelpSplit around
    rw [hwants, loadAndPrint_append_splitFlag] at h
    exact h
  rw [hencode, hsoundex, hsplitRun]
  refine ⟨⟨exitCode_loadAndPrint .., exitCode_loadAndPrint ..⟩,
    ⟨stderr_loadAndPrint .., stderr_loadAndPrint ..⟩, ?_⟩
  obtain ⟨encoder, houtput⟩ := exists_encoder_output_loadAndPrint ⟨path, remaining⟩ around
  refine ⟨encoder.soundex, ?_, ?_, ?_⟩
  · rw [houtput, List.map_eq_flatMap]
    rfl
  · simp only [Encoder.takeWhile_soundex]
    rw [houtput, List.map_eq_flatMap]
    rfl
  · have hcodes : ∀ name, Code.split (encoder.soundex name) = encoder.codes name :=
      fun name => encoder.split_join_run name .every
    simp only [hcodes]
    rw [houtput]
    rfl

/-- A name with a tab and a bar, read before a line that is not UTF-8, over rules from a file. -/
theorem programs_agree_anna :
    ∃ (around : Surroundings) (field : Text → Text),
      Arguments.scan ["-r".toList, "rules".toList] = .ok ⟨some "rules".toList, []⟩ ∧
      treatedNames ⟨some "rules".toList, []⟩ around = ["Anna\tA|B".toList] ∧
      (runEncode ["-r".toList, "rules".toList] around).stderr =
        (runSoundex ["-r".toList, "rules".toList] around).stderr ∧
      (runSoundex ["-r".toList, "rules".toList] around).output =
        [row "Anna\tA|B".toList (field "Anna\tA|B".toList)] ∧
      (runEncode ["-r".toList, "rules".toList] around).output =
        [row "Anna\tA|B".toList ((field "Anna\tA|B".toList).takeWhile (· ≠ Code.bar))] ∧
      (runSoundex ["-r".toList, "rules".toList, splitFlag] around).output =
        (Code.split (field "Anna\tA|B".toList)).map (row "Anna\tA|B".toList) := by
  let source := "a 1|2 \"\" \"\"\nb 7 7 7".toList
  let around : Surroundings := {
    rulesPath := some "other".toList
    reader := fun _ => .ok (Text.toUtf8 source)
    input := Text.toUtf8 "Anna\tA|B\n \n".toList ++ [0xFF, 10] ++ Text.toUtf8 "Anna".toList }
  have hparse : RuleSet.parse source = .ok (.ofStatements (Source.stated source)) :=
    RuleSet.parse_eq_ok_iff.mpr ⟨by decide +kernel, rfl⟩
  have hscan : Arguments.scan ["-r".toList, "rules".toList] = .ok ⟨some "rules".toList, []⟩ := by
    decide +kernel
  have hread : File.readRules around.reader "rules".toList =
      .ok (.ofStatements (Source.stated source)) :=
    File.readRules_eq_ok_iff.mpr ⟨source, rfl, hparse⟩
  have hpath : File.chosenPath (some "rules".toList) around.rulesPath = some "rules".toList := by
    decide +kernel
  have htreated : treatedNames ⟨some "rules".toList, []⟩ around = ["Anna\tA|B".toList] := by
    rw [treatedNames, hpath, File.loadEncoder, hread]
    decide +kernel
  obtain ⟨-, ⟨hstderr, -⟩, field, hsoundex, hencode, hsplit⟩ :=
    programs_agree hscan rfl rfl around
  rw [htreated] at hsoundex hencode hsplit
  exact ⟨around, field, hscan, htreated, hstderr, hsoundex, hencode,
    hsplit.trans (List.append_nil _)⟩

end

end CommandLine

end Soundalike
