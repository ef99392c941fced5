import ClauseEditor.Proofs.Storage.Files

/-!
# Writing files that may be new

A path that names lead to has a directory above it, so a file that is put
there makes no directory and takes none away.  Every name leads where it led
before, the file reads as what was written, and the files at other paths are
left alone.
-/

namespace ClauseEditor.Storage.Files

variable
    {files : Files}
    {path here other below : List Text}
    {bytes : List UInt8}

/-! ## Directories -/

theorem isDirectory_iff :
    files.isDirectory path = true ↔
      path = [] ∨ files.find? path = some .directory ∨
        ∃ entry ∈ files.entries, path <+: entry.1 ∧ entry.1 ≠ path := by
  simp only [isDirectory, Bool.or_eq_true, decide_eq_true_eq, List.any_eq_true,
    Bool.and_eq_true, List.isPrefixOf_iff_prefix, or_assoc]

/-- What leads to a directory leads through directories. -/
theorem isDirectory_of_below
    (directory : files.isDirectory path = true)
    (leads : other <+: path) :
    files.isDirectory other = true := by
  by_cases same : other = path
  · rwa [same]
  rw [isDirectory_iff] at directory ⊢
  rcases directory with rfl | found | ⟨entry, listed, further, _⟩
  · exact Or.inl (List.prefix_nil.mp leads)
  · rcases exists_mem_of_find? found with ⟨entry, listed, rfl⟩
    exact Or.inr (Or.inr ⟨entry, listed, leads, Ne.symm same⟩)
  · refine Or.inr (Or.inr ⟨entry, listed, leads.trans further, ?_⟩)
    rintro rfl
    exact same (leads.eq_of_length_le further.length_le)

/-- A file in a directory makes no directory and takes none away. -/
theorem isDirectory_set_new
    (noDirectory : files.isDirectory path = false)
    (above : files.isDirectory path.dropLast = true)
    (bytes : List UInt8)
    (other : List Text) :
    (files.set path (some (.file bytes))).isDirectory other =
      files.isDirectory other := by
  rw [Bool.eq_iff_iff]
  constructor
  · intro directory
    rcases isDirectory_iff.mp directory with
      rfl | found | ⟨entry, listed, further, longer⟩
    · rfl
    · by_cases same : other = path
      · rw [same, find?_set_self] at found
        cases found
      · rw [find?_set_of_ne same] at found
        exact isDirectory_iff.mpr (Or.inr (Or.inl found))
    · rcases List.mem_cons.mp listed with rfl | listed
      · apply isDirectory_of_below above
        rcases further with ⟨behind, rfl⟩
        have some : behind ≠ [] := by
          rintro rfl
          exact longer (List.append_nil other)
        rw [List.dropLast_append_of_ne_nil some]
        exact List.prefix_append _ _
      · exact isDirectory_iff.mpr
          (Or.inr (Or.inr ⟨entry, (List.mem_filter.mp listed).1, further, longer⟩))
  · intro directory
    have different : other ≠ path := by
      rintro rfl
      rw [noDirectory] at directory
      cases directory
    rcases isDirectory_iff.mp directory with
      rfl | found | ⟨entry, listed, further, longer⟩
    · rfl
    · rw [← find?_set_of_ne different (.file bytes)] at found
      exact isDirectory_iff.mpr (Or.inr (Or.inl found))
    · apply isDirectory_iff.mpr
      refine Or.inr (Or.inr ?_)
      by_cases same : entry.1 = path
      · exact ⟨(path, .file bytes), List.mem_cons_self, same ▸ further,
          Ne.symm different⟩
      · exact ⟨entry, List.mem_cons_of_mem _
          (List.mem_filter.mpr ⟨listed, decide_eq_true same⟩), further, longer⟩

/-! ## Paths -/

/-- Names lead to directories, and to what is in them. -/
theorem isDirectory_follow
    {parts : List Text}
    (leads : files.follow here parts = .ok path)
    (directory : files.isDirectory here = true) :
    files.isDirectory path = true ∨ files.isDirectory path.dropLast = true := by
  induction parts generalizing here with
  | nil =>
      cases leads
      exact Or.inl directory
  | cons part rest induction =>
      rw [follow] at leads
      split at leads
      · exact induction leads
          (isDirectory_of_below directory (List.dropLast_prefix here))
      · dsimp only at leads
        split at leads
        · rename_i goesOn
          by_cases inner : files.isDirectory (here ++ [part]) = true
          · exact induction leads inner
          · rw [goesOn.resolve_right inner] at leads
            cases leads
            rw [List.dropLast_concat]
            exact Or.inr directory
        · split at leads
          · cases leads
          · cases leads

theorem isDirectory_dropLast
    {name : Text}
    (leads : files.locate name = .ok path)
    (noDirectory : files.isDirectory path = false) :
    files.isDirectory path.dropLast = true :=
  (isDirectory_follow (locate_eq_ok_iff.mp leads).2 rfl).resolve_left
    (ne_true_of_eq_false noDirectory)

/-- Names lead to the same paths as long as the directories are the same. -/
theorem follow_eq_ok
    {changed : Files}
    (directories : changed.isDirectory = files.isDirectory)
    (parts : List Text) :
    changed.follow here parts = .ok path ↔
      files.follow here parts = .ok path := by
  induction parts generalizing here with
  | nil => exact Iff.rfl
  | cons part rest induction =>
      rw [follow, follow, directories]
      split
      · exact induction
      · dsimp only
        split
        · exact induction
        · have failed (one two : FileError) (first : Bool) :
              (if first then Except.error one else .error two) ≠
                (.ok path : Except FileError (List Text)) := by
            cases first
            · rintro ⟨⟩
            · rintro ⟨⟩
          exact iff_of_false (failed _ _ _) (failed _ _ _)

theorem locate_eq_ok
    {changed : Files}
    (directories : changed.isDirectory = files.isDirectory)
    (name : Text) :
    changed.locate name = .ok path ↔ files.locate name = .ok path := by
  rw [locate_eq_ok_iff, locate_eq_ok_iff, follow_eq_ok directories]

/-! ## Files that are written -/

section Writing

variable {name : Text} {written : Files}

theorem writable_eq_ok_iff :
    files.writable name = .ok path ↔
      files.locate name = .ok path ∧ files.isDirectory path = false := by
  rw [writable_eq]
  cases leads : files.locate name with
  | error error => simp [Except.bind]
  | ok found =>
      change (if files.isDirectory found then _ else _) = _ ↔ _
      cases directory : files.isDirectory found with
      | true =>
          refine iff_of_false nofun ?_
          rintro ⟨⟨⟩, noDirectory⟩
          rw [directory] at noDirectory
          cases noDirectory
      | false =>
          constructor
          · rintro ⟨⟩
            exact ⟨rfl, directory⟩
          · rintro ⟨⟨⟩, _⟩
            rfl

/-- A file that is written at a path that can be written. -/
theorem set_of_writable
    (writable : files.writable name = .ok path)
    (bytes : List UInt8) :
    (files.set path (some (.file bytes))).isDirectory = files.isDirectory := by
  rcases writable_eq_ok_iff.mp writable with ⟨leads, noDirectory⟩
  funext other
  exact isDirectory_set_new noDirectory (isDirectory_dropLast leads noDirectory)
    bytes other

theorem read_set_self
    (writable : files.writable name = .ok path)
    (bytes : List UInt8) :
    (files.set path (some (.file bytes))).read name = .ok bytes := by
  rcases writable_eq_ok_iff.mp writable with ⟨leads, noDirectory⟩
  have directories := set_of_writable writable bytes
  rw [read_eq, (locate_eq_ok directories name).mpr leads]
  apply readAt_eq_ok_iff.mpr
  rw [directories]
  exact ⟨noDirectory, find?_set_self files path _⟩

theorem read_set_elsewhere
    (writable : files.writable name = .ok path)
    {elsewhere : Text}
    (leads : files.locate elsewhere = .ok other)
    (different : other ≠ path)
    (bytes : List UInt8) :
    (files.set path (some (.file bytes))).read elsewhere =
      files.read elsewhere := by
  have directories := set_of_writable writable bytes
  rw [read_eq, read_eq, (locate_eq_ok directories elsewhere).mpr leads, leads]
  change (files.set path (some (.file bytes))).readAt other = files.readAt other
  rw [readAt, readAt, directories, find?_set_of_ne different]

end Writing

end ClauseEditor.Storage.Files
