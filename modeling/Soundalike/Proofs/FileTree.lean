import Soundalike.File.Rules

set_option autoImplicit false

/-!
# Paths in a tree of files

Whatever path is read, what it gives is the content of one of the files
(`exists_file_of_read_eq_ok`).  Conversely a file is read by its name, unless another plain file is
in the way (`read_ofList`), so a rule file in a tree is loaded exactly as its source says
(`readRules_ofList`).  A path may be longer than the name: parts that stay change nothing
(`readFrom_stay`, `read_dot_slash`), and neither does a directory that is left again
(`readFrom_back`).
-/

namespace Soundalike.File.Tree

variable {tree : Tree} {place parts rest : List Text} {part path : Text} {bytes : List UInt8}

/-! ## Places -/

@[simp] theorem entry?_nil (tree : Tree) : tree.entry? [] = some .directory := rfl

theorem mem_of_lookup {entry : Entry} (h : tree.entries.lookup place = some entry) :
    (place, entry) ∈ tree.entries := by
  obtain ⟨before, after, hentries, -⟩ := List.lookup_eq_some_iff.mp h
  rw [hentries]
  exact List.mem_append_right before List.mem_cons_self

/-- A plain file at a place is one of the entries. -/
theorem mem_of_entry?_eq_file (h : tree.entry? place = some (.file bytes)) :
    (place, .file bytes) ∈ tree.entries := by
  unfold entry? at h
  split at h
  · cases h
  · split at h
    · next entry hlookup =>
      obtain rfl := Option.some.inj h
      exact mem_of_lookup hlookup
    · split at h
      · cases h
      · cases h

/-- Above an entry there is a directory, unless there is a plain file. -/
theorem entry?_of_isPrefix {entry : Entry} (hentry : (parts, entry) ∈ tree.entries)
    (habove : place <+: parts) (hfree : ∀ content, (place, .file content) ∉ tree.entries) :
    tree.entry? place = some .directory := by
  unfold entry?
  split
  · rfl
  · split
    · next found hlookup =>
      cases found with
      | file content => exact absurd (mem_of_lookup hlookup) (hfree content)
      | directory => rfl
    · refine if_pos (List.any_eq_true.mpr ⟨_, hentry, ?_⟩)
      exact List.isPrefixOf_iff_prefix.mpr habove

/-! ## Following a path -/

/-- A part that stays changes nothing. -/
theorem readFrom_stay (hplace : tree.entry? place = some .directory)
    (hpart : part = [] ∨ part = ['.']) :
    tree.readFrom place (part :: rest) = tree.readFrom place rest := by
  rw [readFrom, hplace]
  rcases hpart with rfl | rfl <;> rfl

/-- Any other part but `..` leads to what has that name in a directory. -/
theorem readFrom_enter (hplace : tree.entry? place = some .directory)
    (hpart : isDots part = false) :
    tree.readFrom place (part :: rest) = tree.readFrom (place ++ [part]) rest := by
  simp only [isDots, Bool.or_eq_false_iff, decide_eq_false_iff_not] at hpart
  obtain ⟨⟨hempty, hdot⟩, hdots⟩ := hpart
  rw [readFrom, hplace]
  simp [hempty, hdot, hdots]

/-- A directory that is left again changes nothing. -/
theorem readFrom_back (hplace : tree.entry? place = some .directory)
    (hbelow : tree.entry? (place ++ [part]) = some .directory) (hpart : isDots part = false) :
    tree.readFrom place (part :: ['.', '.'] :: rest) = tree.readFrom place rest := by
  rw [readFrom_enter hplace hpart, readFrom, hbelow]
  simp

/-- Nothing is below a plain file. -/
theorem readFrom_below_file (hplace : tree.entry? place = some (.file bytes)) :
    tree.readFrom place (part :: rest) = .error .notDirectory := by
  rw [readFrom, hplace]

/-- Names lead down where there are directories on the way. -/
theorem readFrom_append (hparts : ∀ part ∈ parts, isDots part = false)
    (hway : ∀ above, above <+: parts → above ≠ parts →
      tree.entry? (place ++ above) = some .directory) :
    tree.readFrom place (parts ++ rest) = tree.readFrom (place ++ parts) rest := by
  induction parts generalizing place with
  | nil => rw [List.nil_append, List.append_nil]
  | cons part parts ih =>
    have hplace : tree.entry? place = some .directory := by
      simpa using hway [] List.nil_prefix (List.cons_ne_nil part parts).symm
    rw [List.cons_append, readFrom_enter hplace (hparts part List.mem_cons_self), ih]
    · rw [List.append_assoc, List.singleton_append]
    · exact fun other hother => hparts other (List.mem_cons_of_mem part hother)
    · intro above habove hne
      have hbelow := hway (part :: above) (List.cons_prefix_cons.mpr ⟨rfl, habove⟩)
        fun heq => hne (List.cons.inj heq).2
      rwa [List.append_assoc, List.singleton_append]

/-! ## What is read -/

theorem readOutside_ne_ok : readOutside parts ≠ .ok bytes := by
  intro h
  unfold readOutside at h
  split at h
  · cases h
  · cases h

theorem exists_file_of_readFrom_eq_ok (h : tree.readFrom place parts = .ok bytes) :
    ∃ goal, (goal, .file bytes) ∈ tree.entries := by
  fun_induction readFrom tree place parts with
  | case1 | case2 | case4 | case5 => cases h
  | case3 place content hplace =>
    cases h
    exact ⟨place, mem_of_entry?_eq_file hplace⟩
  | case7 => exact absurd h readOutside_ne_ok
  | case6 place part rest _ _ ih | case8 place rest _ _ _ ih | case9 place part rest _ _ _ ih =>
    exact ih h

/-- What a path gives is what one of the files holds. -/
theorem exists_file_of_read_eq_ok (h : tree.read path = .ok bytes) :
    ∃ goal, (goal, .file bytes) ∈ tree.entries := by
  unfold read at h
  split at h
  · cases h
  · split at h
    · cases h
    · exact absurd h readOutside_ne_ok
    · exact exists_file_of_readFrom_eq_ok h

theorem read_of_zero_mem (h : '\x00' ∈ path) : tree.read path = .error .zeroInPath := if_pos h

/-- A path in the working directory is followed from there. -/
theorem read_eq_readFrom (hzero : '\x00' ∉ path) (hne : path ≠ []) (hroot : path.head? ≠ some '/') :
    tree.read path = tree.readFrom [] (Text.split '/' path) := by
  unfold read
  rw [if_neg hzero]
  split
  · exact absurd rfl hne
  · exact absurd rfl hroot
  · rfl

/-- A path may begin with `./`. -/
theorem read_dot_slash (hne : path ≠ []) (hroot : path.head? ≠ some '/') :
    tree.read ('.' :: '/' :: path) = tree.read path := by
  by_cases hzero : '\x00' ∈ path
  · rw [read_of_zero_mem hzero, read_of_zero_mem (by simp [hzero])]
  · have hdot : '/' ∉ ['.'] := by decide
    have hsplit : Text.split '/' ('.' :: '/' :: path) = ['.'] :: Text.split '/' path :=
      Text.split_append_cons hdot path
    rw [read_eq_readFrom (by simp [hzero]) (List.cons_ne_nil _ _) (by simp), hsplit,
      readFrom_stay (entry?_nil tree) (Or.inr rfl), read_eq_readFrom hzero hne hroot]

/-! ## Listed files -/

/-- A name by which a file of a list is read: no part of it stays or goes back, and no other plain
file is in the way. -/
structure IsName (files : List (Text × Entry)) (name : Text) : Prop where
  proper : ∀ part ∈ Text.split '/' name, isDots part = false
  zero_not_mem : '\x00' ∉ name
  clear : ∀ above content, (above, .file content) ∈ files →
    Text.split '/' above <+: Text.split '/' name → above = name

section

variable {files : List (Text × Entry)} {name : Text}

theorem split_inj {first second : Text} (h : Text.split '/' first = Text.split '/' second) :
    first = second := by
  rw [← Text.join_split '/' first, h, Text.join_split]

theorem lookup_entries_ofList :
    (ofList files).entries.lookup (Text.split '/' name) = files.lookup name := by
  induction files with
  | nil => rfl
  | cons file files ih =>
    have hkey : (Text.split '/' name == Text.split '/' file.1) = (name == file.1) := by
      rw [Bool.eq_iff_iff, beq_iff_eq, beq_iff_eq]
      exact ⟨split_inj, congrArg _⟩
    have hrest : (ofList (file :: files)).entries =
        (Text.split '/' file.1, file.2) :: (ofList files).entries := rfl
    rw [hrest, List.lookup_cons, List.lookup_cons, hkey, ih]

theorem IsName.ne_nil (h : IsName files name) : name ≠ [] := by
  rintro rfl
  exact absurd (h.proper [] List.mem_cons_self) (by decide)

theorem IsName.head?_ne (h : IsName files name) : name.head? ≠ some '/' := by
  intro hhead
  obtain ⟨rest, rfl⟩ := List.head?_eq_some_iff.mp hhead
  exact absurd (h.proper [] List.mem_cons_self) (by decide)

/-- A file is read by its name. -/
theorem read_ofList (hname : IsName files name) (hfile : files.lookup name = some (.file bytes)) :
    (ofList files).read name = .ok bytes := by
  have hlookup := lookup_entries_ofList.trans hfile
  have hgoal : entry? (ofList files) (Text.split '/' name) = some (.file bytes) := by
    unfold entry?
    rw [if_neg (Text.split_ne_nil '/' name), hlookup]
  have hway : ∀ above, above <+: Text.split '/' name → above ≠ Text.split '/' name →
      entry? (ofList files) ([] ++ above) = some .directory := by
    intro above habove hne
    refine entry?_of_isPrefix (mem_of_lookup hlookup) habove fun content hcontent => ?_
    obtain ⟨⟨other, entry⟩, hother, heq⟩ := List.mem_map.mp hcontent
    obtain ⟨rfl, rfl⟩ := Prod.mk.inj heq
    exact hne (congrArg _ (hname.clear other content hother habove))
  rw [read_eq_readFrom hname.zero_not_mem hname.ne_nil hname.head?_ne,
    ← List.append_nil (Text.split '/' name), readFrom_append hname.proper hway, List.nil_append,
    readFrom, hgoal]

/-- A rule file of a tree is loaded with the rules of its source. -/
theorem readRules_ofList {source : Text} {rules : RuleSet} (hname : IsName files name)
    (hfile : files.lookup name = some (.file (Text.toUtf8 source)))
    (hparse : RuleSet.parse source = .ok rules) :
    readRules (ofList files).read name = .ok rules :=
  readRules_eq_ok_iff.mpr ⟨source, read_ofList hname hfile, hparse⟩

end

end Soundalike.File.Tree
