import Soundalike.CommandLine.Arguments
import Soundalike.CommandLine.Encoding
import Soundalike.Proofs.JoinedCodes
import Soundalike.Proofs.Pieces
import Soundalike.Text.Utf8

set_option autoImplicit false

/-!
# Reading printed rows back

What is read from standard input, said line by line: the names are those on the lines before the
first that is not UTF-8, and all lines could be read if there is no such line (`ofInput_eq`).

What the program prints that prints every code of each name can be read back, whatever the rules and
the names are (`runSoundex_rows`).  A name may hold tabs and bars of its own, so a row is cut at its
last tab: no tab, no newline and no bar gets into a code, and no newline into a name.
-/

namespace Soundalike

/-! ## The names of an input -/

namespace Text

/-- Bytes that are the UTF-8 form of a text. -/
def IsUtf8 (bytes : List UInt8) : Prop := ∃ text, toUtf8 text = bytes

theorem isSome_ofUtf8?_iff {bytes : List UInt8} : (ofUtf8? bytes).isSome = true ↔ IsUtf8 bytes := by
  rw [Option.isSome_iff_exists, IsUtf8]
  exact exists_congr fun _ => ofUtf8?_eq_some_iff

instance (bytes : List UInt8) : Decidable (IsUtf8 bytes) := decidable_of_iff _ isSome_ofUtf8?_iff

end Text

namespace CommandLine.NameList

/-- The lines of an input, which end at the byte of a newline. -/
def inputLines (input : List UInt8) : List (List UInt8) := Text.lines 10 13 input

/-- The lines before the first that is not UTF-8. -/
def readable (lines : List (List UInt8)) : List (List UInt8) :=
  lines.takeWhile fun bytes => decide (Text.IsUtf8 bytes)

/-- The names on lines: what each holds without the white space at its ends, unless that is
nothing. -/
def namesOn (lines : List (List UInt8)) : List Text :=
  ((lines.filterMap Text.ofUtf8?).map Text.trim).filter (· ≠ [])

theorem namesOn_cons {bytes : List UInt8} {line : Text} (h : Text.ofUtf8? bytes = some line)
    (rest : List (List UInt8)) :
    namesOn (bytes :: rest) =
      if Text.trim line = [] then namesOn rest else Text.trim line :: namesOn rest := by
  rw [namesOn, List.filterMap_cons_some h, List.map_cons, List.filter_cons, ← namesOn]
  by_cases hblank : Text.trim line = []
  · simp [hblank]
  · simp [hblank]

theorem ofLines_eq (lines : List (List UInt8)) :
    ofLines lines =
      ⟨namesOn (readable lines), decide (∀ bytes ∈ lines, Text.IsUtf8 bytes)⟩ := by
  induction lines with
  | nil => rfl
  | cons bytes rest ih =>
    cases hline : Text.ofUtf8? bytes with
    | none =>
      have hnot : ¬ Text.IsUtf8 bytes := by
        rw [← Text.isSome_ofUtf8?_iff, hline]
        exact Bool.false_ne_true
      simp [ofLines, hline, readable, hnot, namesOn]
    | some line =>
      have hutf8 : Text.IsUtf8 bytes := by
        rw [← Text.isSome_ofUtf8?_iff, hline]
        rfl
      have hreadable : readable (bytes :: rest) = bytes :: readable rest := by
        simp [readable, hutf8]
      rw [ofLines, hline, ih, hreadable, namesOn_cons hline]
      by_cases hblank : Text.trim line = []
      · simp [hblank, hutf8]
      · simp [hblank, hutf8]

/-- The names of an input are those on the lines before the first that is not UTF-8. -/
theorem ofInput_eq (input : List UInt8) :
    ofInput input =
      ⟨namesOn (readable (inputLines input)),
        decide (∀ bytes ∈ inputLines input, Text.IsUtf8 bytes)⟩ :=
  ofLines_eq (inputLines input)

theorem newline_not_mem_of_mem_namesOn {input : List UInt8} {name : Text}
    (h : name ∈ namesOn (readable (inputLines input))) : '\n' ∉ name := by
  obtain ⟨htrim, -⟩ := List.mem_filter.mp h
  obtain ⟨line, hline, rfl⟩ := List.mem_map.mp htrim
  obtain ⟨bytes, hbytes, hread⟩ := List.mem_filterMap.mp hline
  intro hnewline
  have hmem : 10 ∈ Text.toUtf8 line :=
    (Text.mem_toUtf8_iff (by decide) (by decide) line).mpr (Text.mem_of_mem_trim hnewline)
  rw [Text.ofUtf8?_eq_some_iff.mp hread] at hmem
  exact Text.newline_not_mem_of_mem_lines ((List.takeWhile_sublist _).mem hbytes) hmem

end CommandLine.NameList

/-! ## The last tab of a row -/

namespace Text

/-- What stands before the last separator of a list and after it. -/
def cutAtLast? {α : Type} [DecidableEq α] (separator : α) : List α → Option (List α × List α)
  | [] => none
  | x :: xs =>
    match cutAtLast? separator xs with
    | some (before, after) => some (x :: before, after)
    | none => if x = separator then some ([], xs) else none

theorem cutAtLast?_eq_none {α : Type} [DecidableEq α] {separator : α} {xs : List α}
    (h : separator ∉ xs) : cutAtLast? separator xs = none := by
  induction xs with
  | nil => rfl
  | cons x xs ih =>
    obtain ⟨hne, hrest⟩ := List.ne_and_not_mem_of_not_mem_cons h
    rw [cutAtLast?, ih hrest]
    exact if_neg hne.symm

theorem cutAtLast?_append_cons {α : Type} [DecidableEq α] {separator : α} (before : List α)
    {after : List α} (h : separator ∉ after) :
    cutAtLast? separator (before ++ separator :: after) = some (before, after) := by
  induction before with
  | nil =>
    rw [List.nil_append, cutAtLast?, cutAtLast?_eq_none h]
    exact if_pos rfl
  | cons x before ih => rw [List.cons_append, cutAtLast?, ih]

/-- Lines without a newline in them are the pieces of what is written, and nothing follows the last
newline. -/
theorem split_unlines {pieces : List Text} (h : ∀ piece ∈ pieces, '\n' ∉ piece) :
    split '\n' (unlines pieces) = pieces ++ [[]] := by
  induction pieces with
  | nil => rfl
  | cons piece rest ih =>
    obtain ⟨hpiece, hrest⟩ := List.forall_mem_cons.mp h
    have hunlines : unlines (piece :: rest) = piece ++ '\n' :: unlines rest := by
      simp [unlines]
    rw [hunlines, split_append_cons hpiece, ih hrest]
    rfl

end Text

namespace CommandLine

/-! ## Reading rows -/

/-- Reads a row: the name before the last tab, and the codes after it. -/
def readRow? (line : Text) : Option (Text × List Code) :=
  (Text.cutAtLast? '\t' line).map fun (name, field) => (name, Code.split field)

/-- Reads rows, each of which has to end with a newline. -/
def readRows? (printed : Text) : Option (List (Text × List Code)) :=
  let pieces := Text.split '\n' printed
  if pieces.getLast? = some [] then pieces.dropLast.mapM readRow? else none

theorem readRow?_row (name : Text) {field : Text} (h : '\t' ∉ field) :
    readRow? (row name field) = some (name, Code.split field) := by
  rw [readRow?, row, Text.cutAtLast?_append_cons name h]
  rfl

theorem newline_not_mem_row {name field : Text} (hname : '\n' ∉ name) (hfield : '\n' ∉ field) :
    '\n' ∉ row name field := by
  intro hmem
  rcases List.mem_append.mp hmem with hleft | hright
  · exact hname hleft
  · rcases List.mem_cons.mp hright with htab | hfield'
    · cases htab
    · exact hfield hfield'

/-- Rows are read back if no newline is in a name and neither a newline nor a tab in a field. -/
theorem readRows?_unlines {names : List Text} {field : Text → Text}
    (hnames : ∀ name ∈ names, '\n' ∉ name) (htab : ∀ name ∈ names, '\t' ∉ field name)
    (hnewline : ∀ name ∈ names, '\n' ∉ field name) :
    readRows? (Text.unlines (names.map fun name => row name (field name))) =
      some (names.map fun name => (name, Code.split (field name))) := by
  have hrows : ∀ line ∈ names.map (fun name => row name (field name)), '\n' ∉ line := by
    intro line hline
    obtain ⟨name, hmem, rfl⟩ := List.mem_map.mp hline
    exact newline_not_mem_row (hnames name hmem) (hnewline name hmem)
  rw [readRows?]
  simp only [Text.split_unlines hrows, List.getLast?_concat, List.dropLast_concat, if_true]
  clear hrows hnames hnewline
  induction names with
  | nil => rfl
  | cons name rest ih =>
    obtain ⟨hname, hrest⟩ := List.forall_mem_cons.mp htab
    rw [List.map_cons, List.mapM_cons, readRow?_row name hname, ih hrest]
    rfl

/-! ## The program -/

/-- Over solid rules the rows of names without a newline are read back, with all codes of each. -/
theorem readRows?_printNames {encoder : Encoder} (hsolid : encoder.rules.table.IsSolid)
    {list : NameList} (hnames : ∀ name ∈ list.names, '\n' ∉ name) :
    readRows? (printNames .joined encoder list).stdout =
      some (list.names.map fun name => (name, encoder.codes name)) := by
  have hfree : ∀ c, Text.isWhiteSpace c = true → ∀ name, c ∉ encoder.soundex name := by
    intro c hspace name hmem
    rw [Encoder.isSolid_soundex hsolid name c hmem] at hspace
    cases hspace
  have hstdout : (printNames .joined encoder list).stdout =
      Text.unlines (list.names.map fun name => row name (encoder.soundex name)) := by
    rw [Outcome.stdout, printNames, List.map_eq_flatMap]
    rfl
  have hsplit : ∀ name, Code.split (encoder.soundex name) = encoder.codes name :=
    fun name => encoder.split_join_run name .every
  rw [hstdout, readRows?_unlines hnames (fun name _ => hfree '\t' rfl name)
    (fun name _ => hfree '\n' rfl name)]
  simp only [hsplit]

theorem stderr_printNames (layout : Layout) (encoder : Encoder) (list : NameList) :
    (printNames layout encoder list).stderr =
      if list.complete then [] else NameList.complaint.toList ++ ['\n'] := by
  rw [Outcome.stderr, printNames]
  split
  · rfl
  · simp [Text.unlines]

section

variable {arguments remaining : List Text} {around : Surroundings} {path : Option Text}
  {encoder : Encoder} {log : List Log.Event}

/-- Without help, splitting and names among its arguments the program prints the names of its
input. -/
theorem runSoundex_eq_printNames (hscan : Arguments.scan arguments = .ok ⟨path, remaining⟩)
    (hhelp : wantsHelp remaining = false) (hsplit : wantsSplit remaining = false)
    (hnames : names remaining = [])
    (hload : File.loadEncoder around.reader (File.chosenPath path around.rulesPath)
      (wantsFolding remaining) = .ok (encoder, log)) :
    runSoundex arguments around =
      printNames .joined encoder (NameList.ofInput around.input) := by
  simp [runSoundex, runEncoding, hscan, hhelp, hload, hsplit, chosenNames, hnames]

/-- Over the rules of any file that is loaded, or over the Daitch-Mokotoff rules, and for any input,
what is printed is read back as the names of the input, in their order, each with its codes.  The
names are those on the lines before the first that is not UTF-8, about which there is one line of
complaint. -/
theorem runSoundex_rows (hscan : Arguments.scan arguments = .ok ⟨path, remaining⟩)
    (hhelp : wantsHelp remaining = false) (hsplit : wantsSplit remaining = false)
    (hnames : names remaining = [])
    (hload : File.loadEncoder around.reader (File.chosenPath path around.rulesPath)
      (wantsFolding remaining) = .ok (encoder, log)) :
    readRows? (runSoundex arguments around).stdout =
        some ((NameList.namesOn (NameList.readable (NameList.inputLines around.input))).map
          fun name => (name, encoder.codes name)) ∧
      (runSoundex arguments around).stderr =
        (if ∀ bytes ∈ NameList.inputLines around.input, Text.IsUtf8 bytes then []
          else NameList.complaint.toList ++ ['\n']) ∧
      (runSoundex arguments around).exitCode = 0 := by
  rw [runSoundex_eq_printNames hscan hhelp hsplit hnames hload, NameList.ofInput_eq]
  refine ⟨?_, ?_, rfl⟩
  · exact readRows?_printNames (File.isSolid_of_loadEncoder hload)
      fun name hname => NameList.newline_not_mem_of_mem_namesOn hname
  · rw [stderr_printNames]
    simp only [decide_eq_true_eq]

/-- A name with a tab, a blank line and a line that is not UTF-8, over rules from a file. -/
theorem runSoundex_rows_anna :
    ∃ (around : Surroundings) (encoder : Encoder) (log : List Log.Event),
      Arguments.scan ["-r".toList, "rules".toList] = .ok ⟨some "rules".toList, []⟩ ∧
      File.loadEncoder around.reader (File.chosenPath (some "rules".toList) around.rulesPath) true =
        .ok (encoder, log) ∧
      readRows? (runSoundex ["-r".toList, "rules".toList] around).stdout =
        some [("Anna\tA|B".toList, ["170000".toList, "270000".toList])] ∧
      (runSoundex ["-r".toList, "rules".toList] around).stderr =
        NameList.complaint.toList ++ ['\n'] := by
  let source := "a 1|2 \"\" \"\"\nb 7 7 7".toList
  let around : Surroundings := {
    rulesPath := none
    reader := fun _ => .ok (Text.toUtf8 source)
    input := Text.toUtf8 "Anna\tA|B\n \n".toList ++ [0xFF, 10] ++ Text.toUtf8 "Anna".toList }
  let encoder : Encoder := ⟨.ofStatements (Source.stated source), true⟩
  have hparse : RuleSet.parse source = .ok encoder.rules :=
    RuleSet.parse_eq_ok_iff.mpr ⟨by decide +kernel, rfl⟩
  have hscan : Arguments.scan ["-r".toList, "rules".toList] = .ok ⟨some "rules".toList, []⟩ := by
    decide +kernel
  have hload : File.loadEncoder around.reader
      (File.chosenPath (some "rules".toList) around.rulesPath) true =
        .ok (encoder, [.loading "rules".toList, .ofRuleSet encoder.rules]) := by
    have hpath : File.chosenPath (some "rules".toList) around.rulesPath =
        some "rules".toList := by decide +kernel
    have hread : File.readRules around.reader "rules".toList = .ok encoder.rules := by
      simp only [File.readRules, File.readText, around, Text.ofUtf8?_toUtf8, hparse]
      rfl
    rw [hpath, File.loadEncoder, hread]
  obtain ⟨hrows, herrors, -⟩ := runSoundex_rows hscan rfl rfl rfl hload
  refine ⟨around, encoder, _, hscan, hload, ?_, ?_⟩
  · rw [hrows]
    decide +kernel
  · rw [herrors]
    decide +kernel

end

end CommandLine

end Soundalike
