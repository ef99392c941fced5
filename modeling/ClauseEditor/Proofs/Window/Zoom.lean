import ClauseEditor.Proofs.Window.Restart

/-!
# Which font size is remembered

The menus and the wheel change the font size of the editor, and only the menus
save it.  The preferences keep the size that was chosen last in a menu, and
every action that writes the settings file writes this one: a size that the
wheel has set since then is not remembered, whatever else is saved after it.
-/

namespace ClauseEditor

/-! ## The size in the preferences -/

namespace Preferences

open Json

/-- Preferences that can be written, with this font size. -/
structure Carries (size : Int) (preferences : Preferences) : Prop where
  wellFormed : preferences.toJson.WellFormed
  fontSize : preferences.get fontSizeKey = .integer size

section Carries

variable {size : Int} {preferences : Preferences}

theorem Carries.find?_eq
    (carries : Carries size preferences) :
    preferences.members.find? fontSizeKey = some (.integer size) := by
  have value := carries.fontSize
  rw [get] at value
  cases found : preferences.members.find? fontSizeKey with
  | none =>
      rw [found] at value
      cases value
  | some given =>
      rw [found] at value
      exact congrArg some value

theorem Valid.get_fontSizeKey
    (valid : Valid preferences) :
    preferences.get fontSizeKey = .integer preferences.fontSize := by
  have passes := valid (fontSizeKey, isSize) (by simp [checks])
  rw [fontSize]
  dsimp only at passes
  cases value : preferences.get fontSizeKey with
  | integer size => rfl
  | _ =>
      rw [value] at passes
      cases passes

/-- Another preference leaves the size as it is. -/
theorem Carries.set
    (carries : Carries size preferences)
    {key : Text}
    (known : key ∈ knownKeys)
    {value : Json}
    (wellFormed : value.WellFormed)
    {chosen : Int}
    (fontSize : (preferences.set key value).get fontSizeKey = .integer chosen) :
    Carries chosen (preferences.set key value) where
  wellFormed :=
    wellFormed_insert carries.wellFormed (unpaired_of_mem_knownKeys key known)
      wellFormed
  fontSize := fontSize

end Carries

/-- A file holds no more than one object. -/
theorem Holds.unique
    {files : Storage.Files}
    {name : Text}
    {first second : Members}
    (one : Holds files name first)
    (other : Holds files name second) :
    first = second := by
  rcases one with ⟨bytes, text, found, decoded, read⟩
  rcases other with ⟨bytes', text', found', decoded', read'⟩
  cases found.symm.trans found'
  cases decoded.symm.trans decoded'
  cases read.symm.trans read'
  rfl

end Preferences

namespace Window

open Storage

/-! ## The size in the settings file -/

/-- The settings file is an object with this font size. -/
def StoresFontSize (files : Files) (size : Int) : Prop :=
  ∃ members,
    Preferences.Holds files settingsName members ∧
      Json.Members.find? members Preferences.fontSizeKey = some (.integer size)

/-- A menu command for the font size, or a turn of the wheel with Control held. -/
def Action.zooms : Action → Bool
  | .changeFont _ => true
  | .edit (.turnWheel control _) => control
  | _ => false

/-- The size that was chosen last in a menu, if it was `size` before an action. -/
def chosenSize (window : Window) (size : Int) : Action → Int
  | .changeFont change => (window.changeFont change).editor.fontSize
  | _ => size

/-- The same for actions one after another. -/
def lastChosenSize (window : Window) (size : Int) : List Action → Int
  | [] => size
  | action :: actions =>
    (window.perform action).window.lastChosenSize
      (window.chosenSize size action) actions

theorem StoresFontSize.unique
    {files : Files}
    {first second : Int}
    (one : StoresFontSize files first)
    (other : StoresFontSize files second) :
    first = second := by
  rcases one with ⟨members, holds, size⟩
  rcases other with ⟨others, alsoHolds, otherSize⟩
  rw [holds.unique alsoHolds, otherSize] at size
  cases size
  rfl

section Zoom

variable {window : Window} {size : Int} {action : Action}

theorem storesFontSize_persist
    {key : Text}
    {value : Json}
    (carries : Preferences.Carries size (window.preferences.set key value))
    (saves : (window.files.writable settingsName).isOk = true) :
    StoresFontSize (window.persist key value).files size := by
  rcases Preferences.save_of_isOk_writable saves
      (window.preferences.set key value).toJson with ⟨written, saved⟩
  have holds := Preferences.holds_of_save carries.wellFormed saved
  refine ⟨_, ?_, carries.find?_eq⟩
  rw [persist]
  dsimp only
  rw [saved]
  exact holds

/-! ## Actions that leave the preferences alone -/

theorem preferences_load (window : Window) (name : Text) :
    (window.load name).window.preferences = window.preferences := by
  rcases window.load_cases name with ⟨same, _⟩ | ⟨text, shown⟩
  · rw [same]
  · rw [shown]
    exact preferences_follow window _

theorem preferences_write (window : Window) (name : Text) :
    (window.write name).window.preferences = window.preferences := by
  rw [write]
  split
  · rfl
  · rfl
  · split
    · rfl
    · rfl

theorem preferences_unlessKept
    (reply : Reply)
    {next : Window → Outcome}
    (same : (next window).window.preferences = window.preferences) :
    (window.unlessKept reply next).window.preferences = window.preferences := by
  rw [unlessKept]
  split
  · exact same
  · split
    · exact same
    · rfl

theorem preferences_saveAs (window : Window) (reply : Reply) :
    (window.saveAs reply).window.preferences = window.preferences := by
  rw [saveAs]
  split
  · rfl
  · dsimp only [Outcome.after]
    split
    · exact preferences_write window _
    · exact preferences_write window _

theorem preferences_save (window : Window) (reply : Reply) :
    (window.save reply).window.preferences = window.preferences := by
  rw [save]
  split
  · exact preferences_write window _
  · exact preferences_saveAs window reply

theorem preferences_perform
    (quiet : action.savesPreferences = false)
    (window : Window) :
    (window.perform action).window.preferences = window.preferences := by
  cases action with
  | load name => exact preferences_load window name
  | new reply =>
      apply preferences_unlessKept
      exact preferences_follow window _
  | openPicked reply =>
      apply preferences_unlessKept
      split
      · rfl
      · exact preferences_load window _
  | save reply => exact preferences_save window reply
  | saveAs reply => exact preferences_saveAs window reply
  | close reply => exact preferences_unlessKept reply rfl
  | reindent => exact preferences_follow window _
  | toggleComment => exact preferences_follow window _
  | edit command => exact preferences_follow window _
  | _ => cases quiet

/-! ## Actions that save the preferences -/

/--
An action that writes the settings file sets one preference; the font size is
set by the menu commands for it and by no other action.
-/
theorem exists_set
    (saving : action.savesPreferences = true)
    (carried :
      window.preferences.get Preferences.fontSizeKey = .integer size) :
    ∃ key value,
      key ∈ Preferences.knownKeys ∧ value.WellFormed ∧
        (window.perform action).window.preferences =
          window.preferences.set key value ∧
        (window.perform action).window.files =
          (window.persist key value).files ∧
        (window.preferences.set key value).get Preferences.fontSizeKey =
          .integer (window.chosenSize size action) := by
  cases action with
  | chooseScheme scheme =>
      have unpaired : Json.Unpaired scheme.name := by
        cases scheme with
        | dark => decide
        | light => decide
      refine ⟨Preferences.schemeKey, _, by decide, .string unpaired, rfl, rfl, ?_⟩
      rw [Preferences.get_set_of_ne (by decide)]
      exact carried
  | chooseWidth width =>
      refine ⟨Preferences.indentWidthKey, _, by decide, .integer width, rfl, rfl,
        ?_⟩
      rw [Preferences.get_set_of_ne (by decide)]
      exact carried
  | changeFont change =>
      exact ⟨Preferences.fontSizeKey, _, by decide, .integer _, rfl, rfl,
        Preferences.get_set_self _ _ _⟩
  | toggleWrap =>
      refine ⟨Preferences.wordWrapKey, _, by decide, .bool _, rfl, rfl, ?_⟩
      rw [Preferences.get_set_of_ne (by decide)]
      exact carried
  | _ => cases saving

/-! ## One action -/

theorem carries_perform
    (carries : Preferences.Carries size window.preferences)
    (action : Action) :
    Preferences.Carries (window.chosenSize size action)
      (window.perform action).window.preferences := by
  cases saving : action.savesPreferences with
  | true =>
      rcases exists_set saving carries.fontSize with
        ⟨key, value, known, wellFormed, same, _, fontSize⟩
      rw [same]
      exact carries.set known wellFormed fontSize
  | false =>
      have kept : window.chosenSize size action = size := by
        cases action with
        | changeFont change => cases saving
        | _ => rfl
      rw [preferences_perform saving, kept]
      exact carries

/-- What is saved is the size that was chosen last in a menu. -/
theorem storesFontSize_perform
    (carries : Preferences.Carries size window.preferences)
    (saving : action.savesPreferences = true)
    (saves : (window.files.writable settingsName).isOk = true) :
    StoresFontSize (window.perform action).window.files
      (window.chosenSize size action) := by
  rcases exists_set saving carries.fontSize with
    ⟨key, value, known, wellFormed, _, files, fontSize⟩
  rw [files]
  exact storesFontSize_persist (carries.set known wellFormed fontSize) saves

/--
A change of the font size is saved by the menus; the wheel leaves the file as
it is, and what it holds is the new size by chance only.
-/
theorem storesFontSize_zoom
    (carries : Preferences.Carries size window.preferences)
    (zooms : action.zooms = true)
    (saves :
      action.savesPreferences = true →
        (window.files.writable settingsName).isOk = true) :
    let next := (window.perform action).window
    StoresFontSize next.files next.editor.fontSize ↔
      action.savesPreferences = true ∨
        StoresFontSize window.files next.editor.fontSize := by
  cases action with
  | changeFont change =>
      have saving : (Action.changeFont change).savesPreferences = true := rfl
      have stores := storesFontSize_perform carries saving (saves saving)
      exact iff_of_true stores (Or.inl saving)
  | edit command =>
      intro next
      have files : next.files = window.files := files_follow window _
      rw [files]
      constructor
      · exact Or.inr
      · rintro (⟨⟨⟩⟩ | stores)
        exact stores
  | _ => cases zooms

/-! ## Actions one after another -/

theorem performAll_cons (action : Action) (actions : List Action) :
    (window.performAll (action :: actions)).window =
      ((window.perform action).window.performAll actions).window := by
  induction actions using List.reverseRecOn with
  | nil => rfl
  | append_singleton actions last induction =>
      rw [← List.cons_append, performAll_concat, performAll_concat, induction]

theorem lastChosenSize_concat (actions : List Action) (action : Action) :
    window.lastChosenSize size (actions ++ [action]) =
      (window.performAll actions).window.chosenSize
        (window.lastChosenSize size actions) action := by
  induction actions generalizing window size with
  | nil => rfl
  | cons first actions induction =>
      rw [performAll_cons]
      exact induction

theorem carries_performAll
    (carries : Preferences.Carries size window.preferences)
    (actions : List Action) :
    Preferences.Carries (window.lastChosenSize size actions)
      (window.performAll actions).window.preferences := by
  induction actions using List.reverseRecOn with
  | nil => exact carries
  | append_singleton actions action induction =>
      rw [performAll_concat, lastChosenSize_concat]
      exact carries_perform induction action

theorem carries_openOn
    {registry : Language.Registry}
    {files : Files}
    {directory : Text}
    (opened : openOn registry files directory = .ok window) :
    Preferences.Carries window.preferences.fontSize window.preferences := by
  obtain ⟨preferences, notices, loaded, rfl, _⟩ := exists_load_of_openOn opened
  rcases Preferences.sound_of_load loaded with ⟨valid, wellFormed⟩
  exact ⟨wellFormed, valid.get_fontSizeKey⟩

/--
Whatever is done to a window that has been opened, while the settings file can
be written.  A change of the font size is remembered exactly if it was made in
a menu or the file already had the new size.  Every action that writes the
file writes the size that was chosen last in a menu.
-/
theorem storesFontSize_iff
    {registry : Language.Registry}
    {files : Files}
    {directory : Text}
    (opened : openOn registry files directory = .ok window)
    {actions : List Action}
    (saves : SavesAll window actions)
    (before : List Action)
    (action : Action)
    (leads : before ++ [action] <+: actions) :
    let last := (window.performAll before).window
    let next := (window.performAll (before ++ [action])).window
    (action.zooms = true →
        (StoresFontSize next.files next.editor.fontSize ↔
          action.savesPreferences = true ∨
            StoresFontSize last.files next.editor.fontSize)) ∧
      (action.savesPreferences = true →
        StoresFontSize next.files
          (window.lastChosenSize window.preferences.fontSize
            (before ++ [action]))) := by
  have carries := carries_performAll (carries_openOn opened) before
  have written := saves before action leads
  rw [performAll_concat, lastChosenSize_concat]
  constructor
  · intro zooms
    exact storesFontSize_zoom carries zooms written
  · intro saving
    exact storesFontSize_perform carries saving (written saving)

/--
The menu makes the size 14 and the wheel makes it 15.  The file has the first
of them, also when another preference has been saved after the turn.
-/
theorem storesFontSize_sample :
    let menu : Action := .changeFont .increase
    let wheel : Action := .edit (.turnWheel true 120)
    let scheme : Action := .chooseScheme .light
    ∃ window,
      openOn .start .empty [] = .ok window ∧
        SavesAll window [menu, wheel, scheme] ∧
        let zoomed := (window.performAll [menu]).window
        let turned := (window.performAll [menu, wheel]).window
        let saved := (window.performAll [menu, wheel, scheme]).window
        StoresFontSize zoomed.files 14 ∧
          turned.editor.fontSize = 15 ∧
          ¬ StoresFontSize turned.files 15 ∧
          StoresFontSize saved.files 14 := by
  intro menu wheel scheme
  obtain ⟨window, opened, sizes, writable⟩ :
      ∃ window,
        openOn .start .empty [] = .ok window ∧
          ((window.performAll [menu]).window.editor.fontSize = 14 ∧
            (window.performAll [menu, wheel]).window.editor.fontSize = 15 ∧
            window.lastChosenSize window.preferences.fontSize
              [menu, wheel, scheme] = 14) ∧
          ([menu, wheel, scheme].inits.all fun before =>
            ((window.performAll before).window.files.writable
              settingsName).isOk) = true :=
    ⟨_, rfl, by decide +kernel, by decide +kernel⟩
  have saves : SavesAll window [menu, wheel, scheme] :=
    savesAll_of_all writable
  rcases sizes with ⟨inMenu, byWheel, chosen⟩
  have zoomed : StoresFontSize (window.performAll [menu]).window.files 14 := by
    have ofMenu := (storesFontSize_iff opened saves [] menu
      (List.prefix_append [menu] [wheel, scheme])).1 rfl
    rw [List.nil_append, inMenu] at ofMenu
    exact ofMenu.mpr (Or.inl rfl)
  refine ⟨window, opened, saves, zoomed, byWheel, ?_, ?_⟩
  · intro turned
    have ofWheel := (storesFontSize_iff opened saves [menu] wheel
      (List.prefix_append [menu, wheel] [scheme])).1 rfl
    rw [List.singleton_append, byWheel] at ofWheel
    rcases ofWheel.mp turned with ⟨⟨⟩⟩ | stored
    have same := stored.unique zoomed
    cases same
  · have ofScheme := (storesFontSize_iff opened saves [menu, wheel] scheme
      List.prefix_rfl).2 rfl
    rw [List.cons_append, List.singleton_append, chosen] at ofScheme
    exact ofScheme

/-- A turn of the wheel alone leaves no settings file. -/
theorem storesFontSize_wheel :
    let wheel : Action := .edit (.turnWheel true 120)
    ∃ window,
      openOn .start .empty [] = .ok window ∧
        SavesAll window [wheel] ∧
        let next := (window.perform wheel).window
        next.editor.fontSize ≠ window.editor.fontSize ∧
          ¬ StoresFontSize next.files next.editor.fontSize := by
  intro wheel
  refine ⟨_, rfl, ?_, by decide +kernel, ?_⟩
  · intro before action leads saving
    have member := leads.subset (List.mem_append_right before (.head []))
    cases List.mem_singleton.mp member
    cases saving
  · rintro ⟨members, ⟨bytes, text, found, _⟩, _⟩
    cases found

end Zoom

end Window

end ClauseEditor
