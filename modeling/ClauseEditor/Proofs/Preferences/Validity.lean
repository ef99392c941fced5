import ClauseEditor.Preferences.Basic
import ClauseEditor.Proofs.Json.RoundTrip

/-!
# Valid preferences

Each known key has a check, and its default passes.  The checks are made one
after another and none of them touches the value of another key, so whatever
the settings object is, its preferences are valid in the end.  Preferences
that are valid already are left alone and nothing is reported, and the values
of unknown keys are kept in any case.
-/

namespace ClauseEditor.Preferences

open Json

/-- The known keys with the check of each. -/
def checks : List (Text × (Json → Bool)) :=
  [(schemeKey, isSchemeName), (fontSizeKey, isSize), (indentWidthKey, isSize),
    (wordWrapKey, isTruthValue)]

abbrev knownKeys : List Text :=
  checks.map Prod.fst

/-- Every known key has a value that passes its check. -/
def Valid (preferences : Preferences) : Prop :=
  ∀ known ∈ checks, known.2 (preferences.get known.1) = true

section Values

variable
    {preferences : Preferences}
    {members : Members}
    {key other : Text}
    {value : Json}
    {isValid : Json → Bool}

theorem passes_default : ∀ known ∈ checks, known.2 (default known.1) = true := by
  decide

theorem fails_null : ∀ known ∈ checks, known.2 .null = false := by
  decide

theorem isSchemeName_name (scheme : ColourScheme) :
    isSchemeName (.string scheme.name) = true := by
  cases scheme with
  | dark => decide
  | light => decide

theorem isSize_of_pos {n : Int} (positive : 0 < n) :
    isSize (.integer n) = true :=
  decide_eq_true positive

/-! ## Single keys -/

@[simp]
theorem get_set_self
    (preferences : Preferences)
    (key : Text)
    (value : Json) :
    (preferences.set key value).get key = value := by
  rw [get, set, Members.find?_insert_self, Option.getD_some]

theorem get_set_of_ne
    (different : other ≠ key)
    (value : Json) :
    (preferences.set key value).get other = preferences.get other := by
  rw [get, get, set, Members.find?_insert_of_ne different]

theorem Valid.isSome_find?
    (valid : Valid preferences)
    (known : key ∈ knownKeys) :
    (preferences.members.find? key).isSome = true := by
  rcases List.mem_map.mp known with ⟨check, listed, rfl⟩
  cases found : preferences.members.find? check.1 with
  | some value => rfl
  | none =>
      have passes := valid check listed
      rw [get, found, Option.getD_none, fails_null check listed] at passes
      cases passes

/-- A value that passes the check of its key keeps preferences valid. -/
theorem Valid.set
    (valid : Valid preferences)
    (listed : (key, isValid) ∈ checks)
    (passes : isValid value = true) :
    Valid (preferences.set key value) := by
  have distinct : knownKeys.Nodup := by decide
  intro known alsoListed
  by_cases same : known.1 = key
  · have one : known = (key, isValid) :=
      List.inj_on_of_nodup_map distinct alsoListed listed same
    rw [one, get_set_self]
    exact passes
  · rw [get_set_of_ne same]
    exact valid known alsoListed

/-! ## Checks -/

/-- The preferences after a check. -/
def checked (preferences : Preferences) (known : Text × (Json → Bool)) :
    Preferences :=
  (check known.1 known.2 preferences).1

theorem check_of_isValid
    (valid : isValid (preferences.get key) = true) :
    check key isValid preferences = (preferences, []) := by
  rw [check]
  exact if_pos valid

theorem checked_eq_or (preferences : Preferences) (known : Text × (Json → Bool)) :
    preferences.checked known = preferences ∧
        known.2 (preferences.get known.1) = true ∨
      preferences.checked known = preferences.set known.1 (default known.1) := by
  by_cases valid : known.2 (preferences.get known.1) = true
  · refine Or.inl ⟨?_, valid⟩
    rw [checked, check_of_isValid valid]
  · refine Or.inr ?_
    rw [checked, check]
    rw [if_neg valid]

theorem passes_checked
    {known : Text × (Json → Bool)}
    (listed : known ∈ checks) :
    known.2 ((preferences.checked known).get known.1) = true := by
  rcases checked_eq_or preferences known with ⟨same, valid⟩ | replaced
  · rwa [same]
  · rw [replaced, get_set_self]
    exact passes_default known listed

theorem find?_checked_of_ne
    {known : Text × (Json → Bool)}
    (different : other ≠ known.1) :
    (preferences.checked known).members.find? other =
      preferences.members.find? other := by
  rcases checked_eq_or preferences known with ⟨same, _⟩ | replaced
  · rw [same]
  · rw [replaced]
    exact Members.find?_insert_of_ne different _

/-- What a list of checks does to the value of one key. -/
theorem find?_foldl_checked
    (list : List (Text × (Json → Bool)))
    (preferences : Preferences)
    (absent : other ∉ list.map Prod.fst) :
    (list.foldl checked preferences).members.find? other =
      preferences.members.find? other := by
  induction list generalizing preferences with
  | nil => rfl
  | cons known more induction =>
      rw [List.map_cons, List.mem_cons, not_or] at absent
      rw [List.foldl_cons, induction _ absent.2, find?_checked_of_ne absent.1]

/-- Checks of different keys leave each of the keys with a valid value. -/
theorem passes_foldl_checked
    {list : List (Text × (Json → Bool))}
    (known : ∀ check ∈ list, check ∈ checks)
    (distinct : (list.map Prod.fst).Nodup)
    (preferences : Preferences) :
    ∀ check ∈ list,
      check.2 ((list.foldl checked preferences).get check.1) = true := by
  induction list generalizing preferences with
  | nil => exact List.forall_mem_nil _
  | cons first more induction =>
      rw [List.map_cons, List.nodup_cons] at distinct
      rw [List.foldl_cons]
      intro check listed
      rcases List.mem_cons.mp listed with rfl | further
      · rw [get, find?_foldl_checked more _ distinct.1, ← get]
        exact passes_checked (known _ List.mem_cons_self)
      · exact induction
          (fun check inside => known check (List.mem_cons_of_mem _ inside))
          distinct.2 _ check further

theorem ofMembers_fst (members : Members) :
    (ofMembers members).1 = checks.foldl checked (completed members) := by
  simp only [ofMembers, checks, checked, List.foldl_cons, List.foldl_nil]

/-- The preferences of every settings object are valid. -/
theorem valid_ofMembers (members : Members) : Valid (ofMembers members).1 := by
  rw [ofMembers_fst]
  exact passes_foldl_checked (fun _ listed => listed) (by decide) _

theorem valid_defaults : Valid ⟨defaults⟩ :=
  passes_default

/-! ## Missing keys -/

/-- The members with one of the known keys, if it was missing. -/
def filled (members : Members) (known : Text × Json) : Members :=
  if (members.find? known.1).isSome then members else members ++ [known]

theorem completed_eq (members : Members) :
    completed members = ⟨defaults.foldl filled members⟩ := rfl

theorem notMem_keys_of_find?
    (absent : members.find? key = none) :
    key ∉ members.keys := by
  intro present
  rcases List.mem_map.mp present with ⟨member, inside, rfl⟩
  rw [Members.find?, Option.map_eq_none_iff, List.find?_eq_none] at absent
  exact absent member inside (decide_eq_true rfl)

/-- A missing key is put in at the end. -/
theorem filled_eq_or (members : Members) (known : Text × Json) :
    filled members known = members ∨
      filled members known = members.insert known.1 known.2 := by
  rw [filled]
  cases found : members.find? known.1 with
  | some value => exact Or.inl rfl
  | none =>
      rw [Members.insert_of_notMem (notMem_keys_of_find? found)]
      exact Or.inr rfl

theorem find?_foldl_filled
    {given : Members}
    (absent : key ∉ given.keys)
    (members : Members) :
    Members.find? (given.foldl filled members) key = members.find? key := by
  induction given generalizing members with
  | nil => rfl
  | cons known more induction =>
      rw [Members.keys, List.map_cons, List.mem_cons, not_or] at absent
      rw [List.foldl_cons, induction absent.2]
      rcases filled_eq_or members known with same | inserted
      · rw [same]
      · rw [inserted, Members.find?_insert_of_ne absent.1]

/-- Nothing is put in if no key is missing. -/
theorem foldl_filled_of_isSome
    {given : Members}
    (present : ∀ known ∈ given, (members.find? known.1).isSome = true) :
    given.foldl filled members = members := by
  induction given with
  | nil => rfl
  | cons known more induction =>
      rw [List.foldl_cons, filled, if_pos (present known List.mem_cons_self)]
      exact induction fun known inside =>
        present known (List.mem_cons_of_mem _ inside)

/-! ## Whole objects -/

/-- Valid preferences are taken as they are, and nothing is reported. -/
theorem ofMembers_of_valid
    (valid : Valid ⟨members⟩) :
    ofMembers members = (⟨members⟩, []) := by
  have complete : completed members = ⟨members⟩ := by
    rw [completed_eq, foldl_filled_of_isSome]
    have known : ∀ known ∈ defaults, known.1 ∈ knownKeys := by decide
    exact fun entry listed => valid.isSome_find? (known entry listed)
  have passes (known : Text × (Json → Bool)) (listed : known ∈ checks) :=
    check_of_isValid (valid known listed)
  rw [ofMembers, complete]
  simp only [passes (schemeKey, isSchemeName) (by simp [checks]),
    passes (fontSizeKey, isSize) (by simp [checks]),
    passes (indentWidthKey, isSize) (by simp [checks]),
    passes (wordWrapKey, isTruthValue) (by simp [checks]), List.append_nil]

/-- The values of unknown keys are kept. -/
theorem find?_ofMembers
    (unknown : key ∉ knownKeys)
    (members : Members) :
    (ofMembers members).1.members.find? key = members.find? key := by
  have absent : key ∉ Members.keys defaults := by
    have same : ∀ known ∈ Members.keys defaults, known ∈ knownKeys := by decide
    exact fun present => unknown (same key present)
  rw [ofMembers_fst, find?_foldl_checked checks _ unknown, completed_eq]
  exact find?_foldl_filled absent members

end Values

/-! ## Preferences with a text of their own -/

section WellFormed

variable
    {preferences : Preferences}
    {members : Members}
    {key : Text}
    {value : Json}

/-- A preference that its text determines makes no difference to the others. -/
theorem wellFormed_insert
    (wellFormed : WellFormed (.object members))
    (unpaired : Unpaired key)
    (own : WellFormed value) :
    WellFormed (.object (members.insert key value)) := by
  cases wellFormed with
  | object distinct keys each =>
      refine .object (Members.nodup_insert distinct key value) ?_ ?_
      · intro member inside
        rcases Members.mem_of_mem_insert inside with rfl | before
        · exact unpaired
        · exact keys member before
      · intro member inside
        rcases Members.mem_of_mem_insert inside with rfl | before
        · exact own
        · exact each member before

theorem unpaired_of_mem_knownKeys : ∀ key ∈ knownKeys, Unpaired key := by
  decide

theorem wellFormed_defaults : WellFormed (.object defaults) := by
  refine .object (by decide) (by decide) ?_
  simp only [defaults, List.forall_mem_cons]
  exact ⟨.string (by decide), .integer 13, .bool true, .integer 2,
    List.forall_mem_nil _⟩

theorem wellFormed_default : ∀ key ∈ knownKeys, WellFormed (default key) := by
  simp only [knownKeys, checks, List.map_cons, List.forall_mem_cons]
  exact ⟨.string (by decide), .integer 13, .integer 2, .bool true,
    List.forall_mem_nil _⟩

theorem wellFormed_filled
    (wellFormed : WellFormed (.object members))
    {known : Text × Json}
    (listed : known ∈ defaults) :
    WellFormed (.object (filled members known)) := by
  rcases filled_eq_or members known with same | inserted
  · rwa [same]
  · rw [inserted]
    cases wellFormed_defaults with
    | object _ keys each =>
        exact wellFormed_insert wellFormed (keys known listed) (each known listed)

theorem wellFormed_checked
    (wellFormed : WellFormed (.object preferences.members))
    {known : Text × (Json → Bool)}
    (listed : known ∈ checks) :
    WellFormed (.object (preferences.checked known).members) := by
  have mem : known.1 ∈ knownKeys := List.mem_map_of_mem listed
  rcases checked_eq_or preferences known with ⟨same, _⟩ | replaced
  · rwa [same]
  · rw [replaced]
    exact wellFormed_insert wellFormed (unpaired_of_mem_knownKeys _ mem)
      (wellFormed_default _ mem)

/-- The preferences of an object with a text of its own have one too. -/
theorem wellFormed_ofMembers
    (wellFormed : WellFormed (.object members)) :
    WellFormed (.object (ofMembers members).1.members) := by
  have complete : WellFormed (.object (completed members).members) := by
    rw [completed_eq]
    exact List.foldlRecOn defaults filled
      (motive := fun members => WellFormed (.object members))
      wellFormed fun _ so _ listed => wellFormed_filled so listed
  rw [ofMembers_fst]
  exact List.foldlRecOn checks checked
    (motive := fun preferences => WellFormed (.object preferences.members))
    complete fun _ so _ listed => wellFormed_checked so listed

end WellFormed

end ClauseEditor.Preferences
