import ClauseEditor.Proofs.Preferences.Validity

/-!
# Settings objects are merged with the defaults

The keys of a settings object stay where they are given first, and the known
keys that it lacks come last, in the order of the defaults.  Every key has the
value that it is given last.  Only a value that a known key may not have gives
way to the default.
-/

namespace ClauseEditor.Preferences

open Json

/-- The values that the known keys may have. -/
inductive Permits : Text → Json → Prop
  | dark : Permits schemeKey (.string (Text.ofString "dark"))
  | light : Permits schemeKey (.string (Text.ofString "light"))
  | fontSize
      {size : Int}
      (positive : 0 < size) :
      Permits fontSizeKey (.integer size)
  | indentWidth
      {width : Int}
      (positive : 0 < width) :
      Permits indentWidthKey (.integer width)
  | wordWrap (value : Bool) : Permits wordWrapKey (.bool value)

/--
What is made of the members that a settings object is given with.  The keys
tell the order; the values are those that are given last, as far as they are
permitted.
-/
structure Merges (given merged : Members) : Prop where
  keys :
    merged.keys =
      given.keys.eraseDups ++
        (Members.keys defaults).filter fun key => key ∉ given.keys
  kept :
    ∀ key value,
      given.last? key = some value →
        (key ∈ Members.keys defaults → Permits key value) →
          merged.find? key = some value
  standard :
    ∀ key value,
      (key, value) ∈ defaults →
        (∀ last, given.last? key = some last → ¬ Permits key last) →
          merged.find? key = some value

/-! ## Checks -/

section Checks

variable
    {preferences : Preferences}
    {members : Members}
    {key : Text}
    {value : Json}
    {isValid : Json → Bool}

theorem permits_of_isSchemeName
    (valid : isSchemeName value = true) :
    Permits schemeKey value := by
  match value, valid with
  | .string name, valid =>
      rcases Option.isSome_iff_exists.mp valid with ⟨scheme, found⟩
      have named : scheme.name = name := by
        have same := List.find?_some found
        exact of_decide_eq_true same
      cases scheme with
      | dark => exact named ▸ .dark
      | light => exact named ▸ .light

theorem Permits.exists_check
    (permits : Permits key value) :
    ∃ isValid, (key, isValid) ∈ checks ∧ isValid value = true := by
  cases permits with
  | dark => exact ⟨_, .head _, isSchemeName_name .dark⟩
  | light => exact ⟨_, .head _, isSchemeName_name .light⟩
  | fontSize positive => exact ⟨_, .tail _ (.head _), isSize_of_pos positive⟩
  | indentWidth positive =>
      exact ⟨_, .tail _ (.tail _ (.head _)), isSize_of_pos positive⟩
  | wordWrap value => exact ⟨_, .tail _ (.tail _ (.tail _ (.head _))), rfl⟩

/-- The checks let pass what is permitted, and nothing else. -/
theorem isValid_iff
    (listed : (key, isValid) ∈ checks) :
    isValid value = true ↔ Permits key value := by
  constructor
  · intro valid
    simp only [checks, List.mem_cons, Prod.mk.injEq, List.not_mem_nil,
      or_false] at listed
    rcases listed with ⟨rfl, rfl⟩ | ⟨rfl, rfl⟩ | ⟨rfl, rfl⟩ | ⟨rfl, rfl⟩
    · exact permits_of_isSchemeName valid
    · cases value with
      | integer size => exact .fontSize (of_decide_eq_true valid)
      | _ => cases valid
    · cases value with
      | integer width => exact .indentWidth (of_decide_eq_true valid)
      | _ => cases valid
    · cases value with
      | bool value => exact .wordWrap value
      | _ => cases valid
  · intro permits
    have distinct : knownKeys.Nodup := by decide
    rcases permits.exists_check with ⟨other, alsoListed, passes⟩
    have same : (key, other) = (key, isValid) :=
      List.inj_on_of_nodup_map distinct alsoListed listed rfl
    cases same
    exact passes

theorem exists_check_of_mem
    (known : key ∈ Members.keys defaults) :
    ∃ isValid, (key, isValid) ∈ checks := by
  have listed : ∀ key ∈ Members.keys defaults, key ∈ knownKeys := by decide
  rcases List.mem_map.mp (listed key known) with ⟨check, inside, rfl⟩
  exact ⟨check.2, inside⟩

end Checks

/-! ## Missing keys come last -/

section Filling

variable {members standard : Members} {key : Text}

/-- A key that is missing, and no other, is put behind all others. -/
theorem keys_filled (members : Members) (known : Text × Json) :
    Members.keys (filled members known) =
      members.keys ++ if known.1 ∈ members.keys then [] else [known.1] := by
  rw [filled]
  by_cases present : known.1 ∈ members.keys
  · rw [if_pos (Members.mem_keys_iff.mp present), if_pos present,
      List.append_nil]
  · rw [if_neg (mt Members.mem_keys_iff.mpr present), if_neg present]
    exact List.map_append

theorem keys_foldl_filled
    (distinct : standard.keys.Nodup)
    (members : Members) :
    Members.keys (standard.foldl filled members) =
      members.keys ++ standard.keys.filter fun key => key ∉ members.keys := by
  induction standard generalizing members with
  | nil => exact (List.append_nil _).symm
  | cons known more induction =>
      rw [Members.keys, List.map_cons, List.nodup_cons] at distinct
      have others :
          (Members.keys more).filter (fun key =>
              key ∉ Members.keys (filled members known)) =
            (Members.keys more).filter fun key => key ∉ members.keys := by
        apply List.filter_congr
        intro key inside
        have different : key ≠ known.1 := by
          rintro rfl
          exact distinct.1 inside
        rw [keys_filled]
        split
        · rw [List.append_nil]
        · simp only [List.mem_append, List.mem_singleton, different, or_false]
      rw [List.foldl_cons, induction distinct.2, others, keys_filled,
        List.append_assoc]
      congr 1
      change _ = (known.1 :: Members.keys more).filter _
      by_cases present : known.1 ∈ members.keys
      · rw [if_pos present, List.nil_append, List.filter_cons_of_neg]
        simpa using present
      · rw [if_neg present, List.singleton_append, List.filter_cons_of_pos]
        simpa using present

theorem find?_filled (members : Members) (known : Text × Json) (key : Text) :
    Members.find? (filled members known) key =
      (members.find? key).or (Members.find? [known] key) := by
  rw [filled]
  cases found : members.find? known.1 with
  | none =>
      rw [Option.isSome_none, if_neg Bool.false_ne_true]
      exact Members.find?_append members [known] key
  | some value =>
      rw [Option.isSome_some, if_pos rfl]
      by_cases same : known.1 = key
      · rw [← same, found]
        rfl
      · have absent : Members.find? [known] key = none := by
          simp [Members.find?, same]
        rw [absent, Option.or_none]

/-- A key has the value that it had, or else the one that is put in. -/
theorem find?_foldl_filled_eq_or
    (standard members : Members)
    (key : Text) :
    Members.find? (standard.foldl filled members) key =
      (members.find? key).or (standard.find? key) := by
  induction standard generalizing members with
  | nil => exact Option.or_none.symm
  | cons known more induction =>
      rw [List.foldl_cons, induction, find?_filled, Option.or_assoc,
        ← Members.find?_append]
      rfl

end Filling

/-! ## Values that are not permitted give way -/

section Replacing

variable
    {preferences : Preferences}
    {known : Text × (Json → Bool)}
    {list : List (Text × (Json → Bool))}
    {key : Text}
    {value : Json}

theorem keys_checked
    (present : known.1 ∈ Members.keys preferences.members) :
    Members.keys (preferences.checked known).members =
      Members.keys preferences.members := by
  rcases checked_eq_or preferences known with ⟨same, _⟩ | replaced
  · rw [same]
  · rw [replaced]
    exact Members.keys_insert_of_mem present _

theorem keys_foldl_checked
    (present :
      ∀ known ∈ list, known.1 ∈ Members.keys preferences.members) :
    Members.keys (list.foldl checked preferences).members =
      Members.keys preferences.members := by
  induction list generalizing preferences with
  | nil => rfl
  | cons known more induction =>
      rw [List.forall_mem_cons] at present
      have same := keys_checked present.1
      rw [List.foldl_cons, induction, same]
      rw [same]
      exact present.2

theorem find?_checked
    (found : preferences.members.find? known.1 = some value) :
    (preferences.checked known).members.find? known.1 =
      some (if known.2 value then value else default known.1) := by
  have current : preferences.get known.1 = value := by
    rw [get, found, Option.getD_some]
  rw [checked, check, current]
  split
  · exact found
  · exact Members.find?_insert_self _ _ _

/-- Of the checks of different keys, only its own decides about a key. -/
theorem find?_foldl_checked_of_mem
    (distinct : (list.map Prod.fst).Nodup)
    (listed : known ∈ list)
    (found : preferences.members.find? known.1 = some value) :
    (list.foldl checked preferences).members.find? known.1 =
      some (if known.2 value then value else default known.1) := by
  induction list generalizing preferences with
  | nil => cases listed
  | cons first more induction =>
      rw [List.map_cons, List.nodup_cons] at distinct
      rw [List.foldl_cons]
      rcases List.mem_cons.mp listed with rfl | further
      · rw [find?_foldl_checked more _ distinct.1]
        exact find?_checked found
      · apply induction distinct.2 further
        have different : known.1 ≠ first.1 := by
          intro same
          exact distinct.1 (same ▸ List.mem_map_of_mem further)
        rw [find?_checked_of_ne different]
        exact found

end Replacing

/-! ## Whole objects -/

section Objects

variable {members given : Members} {key : Text} {isValid : Json → Bool}

theorem keys_ofMembers (members : Members) :
    Members.keys (ofMembers members).1.members =
      members.keys ++
        (Members.keys defaults).filter fun key => key ∉ members.keys := by
  have filledKeys : Members.keys (completed members).members = _ :=
    keys_foldl_filled (by decide) members
  have known : ∀ check ∈ checks, check.1 ∈ Members.keys defaults := by decide
  rw [ofMembers_fst, keys_foldl_checked, filledKeys]
  intro check listed
  rw [filledKeys, List.mem_append]
  by_cases present : check.1 ∈ members.keys
  · exact Or.inl present
  · refine Or.inr (List.mem_filter.mpr ⟨known check listed, ?_⟩)
    exact decide_eq_true present

/-- A known key has its value if it is valid, and otherwise the default. -/
theorem find?_ofMembers_of_mem
    (listed : (key, isValid) ∈ checks)
    (members : Members) :
    (ofMembers members).1.members.find? key =
      some (((members.find? key).filter isValid).getD (default key)) := by
  have distinct : (checks.map Prod.fst).Nodup := by decide
  have present : ∀ check ∈ checks, Members.find? defaults check.1 =
      some (default check.1) := by
    simp only [checks, List.forall_mem_cons]
    exact ⟨rfl, rfl, rfl, rfl, List.forall_mem_nil _⟩
  have filledValue :
      (completed members).members.find? key =
        some ((members.find? key).getD (default key)) := by
    rw [completed_eq, find?_foldl_filled_eq_or, present _ listed]
    exact Option.or_some
  rw [ofMembers_fst, find?_foldl_checked_of_mem distinct listed filledValue]
  cases members.find? key with
  | none =>
      dsimp only [Option.getD_none]
      rw [ite_self]
      rfl
  | some value =>
      dsimp only [Option.getD_some]
      rw [Option.filter_some]
      split
      · rfl
      · rfl

/-- A settings object is merged with the defaults. -/
theorem merges_ofMembers (given : Members) :
    Merges given (ofMembers (Members.ofList given)).1.members := by
  have same (key : Text) :
      key ∈ Members.keys (Members.ofList given) ↔ key ∈ given.keys := by
    rw [Members.keys_ofList, List.mem_eraseDups]
  have last (key : Text) := Members.find?_ofList given key
  constructor
  · rw [keys_ofMembers, Members.keys_ofList]
    congr 2
    funext key
    simp only [List.mem_eraseDups]
  · intro key value found permitted
    by_cases known : key ∈ Members.keys defaults
    · rcases exists_check_of_mem known with ⟨isValid, listed⟩
      have valid := (isValid_iff listed).mpr (permitted known)
      rw [find?_ofMembers_of_mem listed, last, found, Option.filter_some,
        if_pos valid]
      rfl
    · have unknown : key ∉ knownKeys := by
        have listed : ∀ key ∈ knownKeys, key ∈ Members.keys defaults := by
          decide
        exact mt (listed key) known
      rw [find?_ofMembers unknown, last, found]
  · intro key value listedDefault refused
    have known : key ∈ Members.keys defaults :=
      List.mem_map_of_mem listedDefault
    rcases exists_check_of_mem known with ⟨isValid, listed⟩
    have standard : default key = value := by
      have all : ∀ known ∈ defaults, default known.1 = known.2 := by
        simp only [defaults, List.forall_mem_cons]
        exact ⟨rfl, rfl, rfl, rfl, List.forall_mem_nil _⟩
      exact all _ listedDefault
    have none : (given.last? key).filter isValid = none := by
      rw [Option.filter_eq_none_iff]
      intro found isLast valid
      exact refused found isLast ((isValid_iff listed).mp valid)
    rw [find?_ofMembers_of_mem listed, last, none, standard]
    rfl

end Objects

end ClauseEditor.Preferences
