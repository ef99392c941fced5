import ClauseEditor.Language.Registry
import Mathlib.Data.List.Infix

/-!
# What a history of registrations leaves

The registry keeps one mode for each name that has been registered: the last
one, in the place that the name got when it was registered first.  Registering
one more mode keeps it so, and hence the registry is determined by the modes
that were registered and their order, however often names are registered
again.

Looking for the mode of a file then means to look at the names in the order of
their first registration, and at their last modes.
-/

namespace ClauseEditor.Language

/-! ## Histories -/

/-- The mode is the last one that was registered under its name. -/
def IsLatest (history : List Mode) (mode : Mode) : Prop :=
  ∃ before after : List Mode,
    history = before ++ mode :: after ∧
      ∀ later ∈ after, later.name ≠ mode.name

/-- When the first name had been registered, the second one had not yet. -/
def NamedBefore (history : List Mode) (first second : Text) : Prop :=
  ∃ before : List Mode,
    before <+: history ∧
      first ∈ before.map Mode.name ∧ second ∉ before.map Mode.name

section History

variable {history : List Mode} {first second : Text}

theorem not_isLatest_nil (mode : Mode) : ¬ IsLatest [] mode := by
  rintro ⟨before, after, parts, _⟩
  exact List.append_ne_nil_of_right_ne_nil before (List.cons_ne_nil _ _)
    parts.symm

/-- A registration makes its mode the last one of its name and of no other. -/
theorem isLatest_concat_iff {last mode : Mode} :
    IsLatest (history ++ [last]) mode ↔
      mode = last ∨ (IsLatest history mode ∧ mode.name ≠ last.name) := by
  constructor
  · rintro ⟨before, after, parts, different⟩
    cases after using List.reverseRecOn with
    | nil =>
        have same := (List.append_inj' parts rfl).2
        exact Or.inl (List.singleton_inj.mp same).symm
    | append_singleton after other =>
        rw [← List.cons_append, ← List.append_assoc] at parts
        rcases List.append_inj' parts rfl with ⟨earlier, same⟩
        cases same
        refine Or.inr ⟨⟨before, after, earlier, ?_⟩, ?_⟩
        · intro later member
          exact different later (List.mem_append_left _ member)
        · have apart := different last (by simp)
          exact apart.symm
  · rintro (rfl | ⟨⟨before, after, rfl, different⟩, apart⟩)
    · exact ⟨history, [], rfl, nofun⟩
    · refine ⟨before, after ++ [last], by simp, ?_⟩
      intro later member
      rcases List.mem_append.mp member with earlier | same
      · exact different later earlier
      · rw [List.mem_singleton.mp same]
        exact apart.symm

/-- Every name that has been registered has a last mode. -/
theorem exists_isLatest {name : Text} (named : name ∈ history.map Mode.name) :
    ∃ mode, IsLatest history mode ∧ mode.name = name := by
  induction history using List.reverseRecOn with
  | nil => cases named
  | append_singleton history last induction =>
      by_cases same : last.name = name
      · exact ⟨last, isLatest_concat_iff.mpr (Or.inl rfl), same⟩
      · have earlier : name ∈ history.map Mode.name := by
          rw [List.map_append, List.mem_append] at named
          rcases named with earlier | ofLast
          · exact earlier
          · exact absurd (List.mem_singleton.mp ofLast).symm same
        rcases induction earlier with ⟨mode, latest, rfl⟩
        exact ⟨mode, isLatest_concat_iff.mpr (Or.inr ⟨latest, Ne.symm same⟩),
          rfl⟩

theorem NamedBefore.asymm
    (one : NamedBefore history first second)
    (other : NamedBefore history second first) :
    False := by
  rcases one with ⟨before, begins, hasFirst, noSecond⟩
  rcases other with ⟨before', begins', hasSecond, noFirst⟩
  rcases List.prefix_or_prefix_of_prefix begins begins' with shorter | longer
  · exact noFirst (List.map_subset _ shorter.subset hasFirst)
  · exact noSecond (List.map_subset _ longer.subset hasSecond)

/-- What was registered first does not change any more. -/
theorem NamedBefore.concat
    (earlier : NamedBefore history first second)
    (last : Mode) :
    NamedBefore (history ++ [last]) first second := by
  rcases earlier with ⟨before, begins, hasFirst, noSecond⟩
  exact ⟨before, begins.trans (List.prefix_append _ _), hasFirst, noSecond⟩

theorem namedBefore_concat
    {last : Mode}
    (named : first ∈ history.map Mode.name)
    (new : last.name ∉ history.map Mode.name) :
    NamedBefore (history ++ [last]) first last.name :=
  ⟨history, List.prefix_append _ _, named, new⟩

end History

/-! ## Placing a mode -/

namespace Registry

/-- A mode takes the place of the one of its name, or the last place. -/
theorem map_name_place (mode : Mode) (modes : List Mode) :
    (place mode modes).map Mode.name =
      if mode.name ∈ modes.map Mode.name then modes.map Mode.name
      else modes.map Mode.name ++ [mode.name] := by
  induction modes with
  | nil => rfl
  | cons other modes induction =>
      rw [place]
      by_cases same : other.name = mode.name
      · rw [if_pos same, List.map_cons, List.map_cons, same,
          if_pos List.mem_cons_self]
      · rw [if_neg same, List.map_cons, induction, List.map_cons]
        simp only [List.mem_cons, Ne.symm same, false_or]
        split <;> rfl

theorem mem_place_iff
    {modes : List Mode}
    (distinct : (modes.map Mode.name).Nodup)
    {mode other : Mode} :
    other ∈ place mode modes ↔
      other = mode ∨ (other ∈ modes ∧ other.name ≠ mode.name) := by
  induction modes with
  | nil => simp [place]
  | cons head modes induction =>
      rw [List.map_cons, List.nodup_cons] at distinct
      rcases distinct with ⟨alone, distinct⟩
      rw [place]
      by_cases same : head.name = mode.name
      · have apart : other ∈ modes → other.name ≠ mode.name := by
          rintro member again
          exact alone (List.mem_map.mpr ⟨other, member, again.trans same.symm⟩)
        rw [if_pos same, List.mem_cons, List.mem_cons]
        constructor
        · rintro (new | member)
          · exact Or.inl new
          · exact Or.inr ⟨Or.inr member, apart member⟩
        · rintro (new | ⟨rfl | member, different⟩)
          · exact Or.inl new
          · exact absurd same different
          · exact Or.inr member
      · rw [if_neg same, List.mem_cons, induction distinct, List.mem_cons]
        constructor
        · rintro (rfl | new | ⟨member, different⟩)
          · exact Or.inr ⟨Or.inl rfl, same⟩
          · exact Or.inl new
          · exact Or.inr ⟨Or.inr member, different⟩
        · rintro (new | ⟨rfl | member, different⟩)
          · exact Or.inr (Or.inl new)
          · exact Or.inl rfl
          · exact Or.inr (Or.inr ⟨member, different⟩)

/-! ## The modes of a history -/

/-- The last modes of all names, in the order of their first registration. -/
structure Keeps (history modes : List Mode) : Prop where
  mem_iff : ∀ mode, mode ∈ modes ↔ IsLatest history mode
  ordered : (modes.map Mode.name).Pairwise (NamedBefore history)

section Keeps

variable {history modes : List Mode}

theorem keeps_nil : Keeps [] [] :=
  ⟨fun mode => iff_of_false List.not_mem_nil (not_isLatest_nil mode), .nil⟩

theorem Keeps.nodup (keeps : Keeps history modes) :
    (modes.map Mode.name).Nodup := by
  refine keeps.ordered.imp ?_
  rintro name _ earlier rfl
  exact earlier.asymm earlier

theorem Keeps.mem_names
    (keeps : Keeps history modes)
    {name : Text}
    (named : name ∈ history.map Mode.name) :
    name ∈ modes.map Mode.name := by
  rcases exists_isLatest named with ⟨mode, latest, rfl⟩
  exact List.mem_map_of_mem ((keeps.mem_iff mode).mpr latest)

theorem Keeps.mem_history_names
    (keeps : Keeps history modes)
    {name : Text}
    (named : name ∈ modes.map Mode.name) :
    name ∈ history.map Mode.name := by
  rcases List.mem_map.mp named with ⟨mode, member, rfl⟩
  rcases (keeps.mem_iff mode).mp member with ⟨before, after, rfl, _⟩
  simp

/-- One more registration. -/
theorem Keeps.place
    (keeps : Keeps history modes)
    (mode : Mode) :
    Keeps (history ++ [mode]) (place mode modes) := by
  constructor
  · intro other
    rw [mem_place_iff keeps.nodup, isLatest_concat_iff, keeps.mem_iff]
  · have still :
        (modes.map Mode.name).Pairwise (NamedBefore (history ++ [mode])) :=
      keeps.ordered.imp fun earlier => earlier.concat mode
    rw [map_name_place]
    split
    · exact still
    · rename_i new
      refine List.pairwise_append.mpr ⟨still, List.pairwise_singleton _ _, ?_⟩
      intro name named last same
      rw [List.mem_singleton.mp same]
      exact namedBefore_concat (keeps.mem_history_names named)
        fun known => new (keeps.mem_names known)

theorem Keeps.registerAll
    {registry : Registry}
    (keeps : Keeps history registry.modes)
    (modes : List Mode) :
    Keeps (history ++ modes) (registry.registerAll modes).modes := by
  induction modes generalizing history registry with
  | nil =>
      rw [List.append_nil]
      exact keeps
  | cons mode modes induction =>
      have registered :
          Keeps (history ++ [mode]) (registry.register mode).modes :=
        keeps.place mode
      have rest := induction registered
      rwa [List.append_assoc, List.singleton_append] at rest

theorem keeps_registerAll_start (modes : List Mode) :
    Keeps (Mode.scallop :: modes) (start.registerAll modes).modes := by
  have keeps : Keeps [Mode.scallop] start.modes :=
    keeps_nil.place Mode.scallop
  exact keeps.registerAll modes

/-- The first of the modes that passes a test, in terms of the history. -/
theorem Keeps.find?_eq_some_iff
    (keeps : Keeps history modes)
    {test : Mode → Bool}
    {mode : Mode} :
    modes.find? test = some mode ↔
      IsLatest history mode ∧ test mode = true ∧
        ∀ other,
          IsLatest history other →
            NamedBefore history other.name mode.name →
              test other = false := by
  have ordered := List.pairwise_map.mp keeps.ordered
  rw [List.find?_eq_some_iff_append]
  constructor
  · rintro ⟨passes, before, after, rfl, fail⟩
    refine ⟨(keeps.mem_iff mode).mp (by simp), passes, ?_⟩
    intro other latest earlier
    have listed := (keeps.mem_iff other).mpr latest
    rcases List.mem_append.mp listed with inFront | behind
    · simpa using fail other inFront
    · rcases List.mem_cons.mp behind with rfl | later
      · exact absurd earlier fun itself => itself.asymm itself
      · have follows := (List.pairwise_append.mp ordered).2.1
        have after := (List.pairwise_cons.mp follows).1 other later
        exact absurd earlier after.asymm
  · rintro ⟨latest, passes, fail⟩
    have listed := (keeps.mem_iff mode).mpr latest
    rcases List.append_of_mem listed with ⟨before, after, rfl⟩
    refine ⟨passes, before, after, rfl, ?_⟩
    intro other inFront
    have earlier :=
      (List.pairwise_append.mp ordered).2.2 other inFront mode
        List.mem_cons_self
    have otherLatest :=
      (keeps.mem_iff other).mp (List.mem_append_left _ inFront)
    simp [fail other otherLatest earlier]

theorem Keeps.find?_eq_none_iff
    (keeps : Keeps history modes)
    {test : Mode → Bool} :
    modes.find? test = none ↔
      ∀ mode, IsLatest history mode → test mode = false := by
  rw [List.find?_eq_none]
  constructor
  · intro fail mode latest
    exact Bool.eq_false_iff.mpr (fail mode ((keeps.mem_iff mode).mpr latest))
  · intro fail mode listed
    exact Bool.eq_false_iff.mp (fail mode ((keeps.mem_iff mode).mp listed))

end Keeps

end Registry

/-! ## Looking up modes -/

/-- One of the patterns matches the file name, both in lower case. -/
def Mode.Matches (mode : Mode) (path : Text) : Prop :=
  ∃ pattern ∈ mode.patterns,
    globMatches (Text.lower pattern) (Text.lower (fileName path)) = true

theorem Mode.claims_eq_true_iff {mode : Mode} {path : Text} :
    mode.claims (Text.lower (fileName path)) = true ↔ mode.Matches path :=
  List.any_eq_true

theorem Mode.claims_eq_false_iff {mode : Mode} {path : Text} :
    mode.claims (Text.lower (fileName path)) = false ↔ ¬ mode.Matches path := by
  rw [Bool.eq_false_iff, Ne, claims_eq_true_iff]

namespace Registry

/-- A name that has been registered is found, and with its last mode. -/
theorem Keeps.isLatest_default
    {history : List Mode}
    {registry : Registry}
    (keeps : Keeps history registry.modes)
    (named : Scallop.languageName ∈ history.map Mode.name) :
    IsLatest history registry.default ∧
      registry.default.name = Scallop.languageName := by
  rcases exists_isLatest named with ⟨mode, latest, name⟩
  rw [default]
  cases found :
      registry.modes.find? fun mode => mode.name = Scallop.languageName with
  | none =>
      have other := keeps.find?_eq_none_iff.mp found mode latest
      exact absurd name (of_decide_eq_false other)
  | some mode =>
      rcases keeps.find?_eq_some_iff.mp found with ⟨latest, passes, _⟩
      exact ⟨latest, of_decide_eq_true passes⟩

/--
The mode of a file after any registrations.  It is the last one registered
under its name, one of its patterns matches, and no name that was registered
first before it has a last mode that matches.  A file has no mode exactly if
no last mode matches.  The mode of new documents is always the last one that
was registered under the name of Scallop.
-/
theorem forPath?_registerAll (modes : List Mode) (path : Text) :
    let history := Mode.scallop :: modes
    let registry := start.registerAll modes
    (∀ mode,
        registry.forPath? path = some mode ↔
          IsLatest history mode ∧ mode.Matches path ∧
            ∀ other,
              IsLatest history other →
                NamedBefore history other.name mode.name →
                  ¬ other.Matches path) ∧
      (registry.forPath? path = none ↔
        ∀ mode, IsLatest history mode → ¬ mode.Matches path) ∧
      IsLatest history registry.default ∧
      registry.default.name = Scallop.languageName := by
  intro history registry
  have keeps : Keeps history registry.modes := keeps_registerAll_start modes
  refine ⟨fun mode => ?_, ?_, ?_⟩
  · rw [forPath?, keeps.find?_eq_some_iff]
    simp only [Mode.claims_eq_true_iff, Mode.claims_eq_false_iff]
  · rw [forPath?, keeps.find?_eq_none_iff]
    simp only [Mode.claims_eq_false_iff]
  · exact keeps.isLatest_default List.mem_cons_self

/--
A mode that is registered again keeps the place of its name: its new pattern
comes before the one of a mode that was registered between.
-/
example :
    let first : Mode := ⟨Text.ofString "A", [Text.ofString "*.x"], [], 2⟩
    let between : Mode := ⟨Text.ofString "B", [Text.ofString "*.y"], [], 2⟩
    let again : Mode := ⟨Text.ofString "A", [Text.ofString "*.Y"], [], 4⟩
    let registry := start.registerAll [first, between, again]
    registry.forPath? (Text.ofString "d/f.y/") = some again ∧
      registry.forPath? (Text.ofString "f.x") = none := by
  decide +kernel

end Registry

end ClauseEditor.Language
