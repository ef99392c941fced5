import ClauseEditor.Storage.Files

/-!
# Giving a file other bytes

Which directories there are, and so where a name leads, does not depend on
what the files hold.  Hence a file that is written reads as what was written,
and every file that another path leads to reads as before.
-/

namespace ClauseEditor.Storage.Files

variable {files : Files} {path other : List Text} {old new : List UInt8}

/-! ## Entries -/

@[simp]
theorem find?_set_self
    (files : Files)
    (path : List Text)
    (entry : Entry) :
    (files.set path (some entry)).find? path = some entry := by
  simp [find?, set]

theorem find?_set_of_ne
    (different : other ≠ path)
    (entry : Entry) :
    (files.set path (some entry)).find? other = files.find? other := by
  have kept :
      (fun entry : List Text × Entry =>
          (!decide (entry.1 = path)) && decide (entry.1 = other)) =
        fun entry => decide (entry.1 = other) := by
    funext entry
    by_cases same : entry.1 = other
    · simp [same, different]
    · simp [same]
  simp [find?, set, List.find?_filter, Ne.symm different, kept]

theorem exists_mem_of_find?
    {entry : Entry}
    (found : files.find? path = some entry) :
    ∃ stored ∈ files.entries, stored.1 = path := by
  rcases Option.map_eq_some_iff.mp found with ⟨stored, stands, _⟩
  have same := List.find?_some stands
  exact ⟨stored, List.mem_of_find?_eq_some stands, of_decide_eq_true same⟩

/-- An entry in the place of another one does not lead further down. -/
theorem any_entries_set
    {entry : Entry}
    (present : files.find? path = some entry)
    (new : Entry)
    (leads : List Text → Bool) :
    (files.set path (some new)).entries.any (fun stored => leads stored.1) =
      files.entries.any fun stored => leads stored.1 := by
  rcases exists_mem_of_find? present with ⟨stored, member, rfl⟩
  rw [Bool.eq_iff_iff, List.any_eq_true, List.any_eq_true]
  constructor
  · rintro ⟨candidate, listed, further⟩
    rcases List.mem_cons.mp listed with rfl | listed
    · exact ⟨stored, member, further⟩
    · exact ⟨candidate, (List.mem_filter.mp listed).1, further⟩
  · rintro ⟨candidate, listed, further⟩
    by_cases same : candidate.1 = stored.1
    · exact ⟨(stored.1, new), List.mem_cons_self, same ▸ further⟩
    · have kept : decide (candidate.1 ≠ stored.1) = true :=
        decide_eq_true same
      exact ⟨candidate,
        List.mem_cons_of_mem _ (List.mem_filter.mpr ⟨listed, kept⟩), further⟩

/-! ## Paths -/

/-- Other bytes do not make a directory. -/
theorem isDirectory_set
    (present : files.find? path = some (.file old))
    (other : List Text) :
    (files.set path (some (.file new))).isDirectory other =
      files.isDirectory other := by
  have entry :
      (files.set path (some (.file new))).find? other = some .directory ↔
        files.find? other = some .directory := by
    by_cases same : other = path
    · simp [same, present]
    · rw [find?_set_of_ne same]
  rw [isDirectory, isDirectory,
    any_entries_set present _ fun stored =>
      other.isPrefixOf stored && stored ≠ other]
  simp only [entry]

theorem isSome_find?_set
    (present : files.find? path = some (.file old))
    (other : List Text) :
    ((files.set path (some (.file new))).find? other).isSome =
      (files.find? other).isSome := by
  by_cases same : other = path
  · rw [same, find?_set_self, present]
    rfl
  · rw [find?_set_of_ne same]

theorem follow_set
    (present : files.find? path = some (.file old))
    (here parts : List Text) :
    (files.set path (some (.file new))).follow here parts =
      files.follow here parts := by
  induction parts generalizing here with
  | nil => rfl
  | cons part rest induction =>
      simp only [follow, isDirectory_set present, isSome_find?_set present,
        induction]

theorem locate_set
    (present : files.find? path = some (.file old))
    (name : Text) :
    (files.set path (some (.file new))).locate name = files.locate name := by
  rw [locate, locate, follow_set present]

theorem locate_of_nameFault
    {name : Text}
    {fault : NameFault}
    (faulty : nameFault? name = some fault) :
    files.locate name = .error (.noName fault) := by
  rw [locate, faulty]

theorem locate_of_follow
    {name : Text}
    (proper : nameFault? name = none) :
    files.locate name =
      match files.follow [] (Language.pathParts name) with
      | .error error => .error (.refused error)
      | .ok path => .ok path := by
  rw [locate, proper]
  cases files.follow [] (Language.pathParts name) with
  | error error => rfl
  | ok path => rfl

/-- A name that leads somewhere has no fault. -/
theorem locate_eq_ok_iff {name : Text} :
    files.locate name = .ok path ↔
      nameFault? name = none ∧
        files.follow [] (Language.pathParts name) = .ok path := by
  cases fault : nameFault? name with
  | some fault => simp [locate_of_nameFault fault]
  | none =>
      rw [locate_of_follow fault]
      cases files.follow [] (Language.pathParts name) with
      | error error => simp
      | ok found => simp

/-! ## Reading -/

section Reading

variable {name : Text}

/-- The bytes at a path. -/
def readAt (files : Files) (path : List Text) : Except Obstacle (List UInt8) :=
  if files.isDirectory path then .error (.refused .isDirectory)
  else
    match files.find? path with
    | some (.file bytes) => .ok bytes
    | _ => .error (.refused .notFound)

theorem read_eq (files : Files) (name : Text) :
    files.read name = (files.locate name).bind files.readAt := by
  cases leads : files.locate name with
  | error error => simp [read, leads, bind, Except.bind]
  | ok path =>
      simp only [read, leads, bind, Except.bind, readAt]
      split
      · rfl
      · rfl

theorem writable_eq (files : Files) (name : Text) :
    files.writable name =
      (files.locate name).bind fun path =>
        if files.isDirectory path then .error (.refused .isDirectory)
        else .ok path := by
  cases leads : files.locate name with
  | error error => simp [writable, leads, bind, Except.bind]
  | ok path =>
      simp only [writable, leads, bind, Except.bind]
      split
      · rfl
      · rfl

/-- What is wrong with a name is what keeps it from being written to. -/
theorem nameFault_eq (files : Files) (name : Text) :
    nameFault? name =
      match files.writable name with
      | .error (.noName fault) => some fault
      | _ => none := by
  rw [writable_eq]
  cases fault : nameFault? name with
  | some fault =>
      rw [locate_of_nameFault fault]
      rfl
  | none =>
      rw [locate_of_follow fault]
      cases files.follow [] (Language.pathParts name) with
      | error error => rfl
      | ok path =>
          simp only [Except.bind]
          cases files.isDirectory path <;> rfl

theorem readAt_eq_ok_iff :
    files.readAt path = .ok old ↔
      files.isDirectory path = false ∧
        files.find? path = some (.file old) := by
  rw [readAt]
  cases files.isDirectory path with
  | true => simp
  | false =>
      rw [if_neg Bool.false_ne_true]
      split
      · rename_i bytes found
        simp [found]
      · rename_i other
        simpa using other old

/-- A file that is read is at a path where it can be written. -/
theorem exists_of_read
    (found : files.read name = .ok old) :
    ∃ path,
      files.writable name = .ok path ∧ files.locate name = .ok path ∧
        files.readAt path = .ok old := by
  rw [read_eq] at found
  cases leads : files.locate name with
  | error error =>
      rw [leads] at found
      cases found
  | ok path =>
      rw [leads] at found
      have noDirectory := (readAt_eq_ok_iff.mp found).1
      refine ⟨path, ?_, rfl, found⟩
      rw [writable_eq, leads]
      exact if_neg (ne_true_of_eq_false noDirectory)

/-- A file that is written reads as what was written. -/
theorem read_set
    (leads : files.locate name = .ok path)
    (present : files.readAt path = .ok old)
    (new : List UInt8) :
    (files.set path (some (.file new))).read name = .ok new := by
  rcases readAt_eq_ok_iff.mp present with ⟨noDirectory, found⟩
  rw [read_eq, locate_set found, leads]
  apply readAt_eq_ok_iff.mpr
  exact ⟨(isDirectory_set found path).trans noDirectory,
    find?_set_self files path _⟩

/-- Files at other paths are left alone. -/
theorem read_set_of_ne
    (present : files.readAt path = .ok old)
    (elsewhere : files.locate name ≠ .ok path)
    (new : List UInt8) :
    (files.set path (some (.file new))).read name = files.read name := by
  rcases readAt_eq_ok_iff.mp present with ⟨_, found⟩
  rw [read_eq, read_eq, locate_set found]
  cases leads : files.locate name with
  | error error => rfl
  | ok other =>
      have different : other ≠ path := by
        rintro rfl
        exact elsewhere leads
      change (files.set path (some (.file new))).readAt other =
        files.readAt other
      rw [readAt, readAt, isDirectory_set found, find?_set_of_ne different]

end Reading

end ClauseEditor.Storage.Files
