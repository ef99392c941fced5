import ClauseEditor.Proofs.Editor.Appearance
import ClauseEditor.Proofs.Preferences.Saved
import ClauseEditor.Window.Action

/-!
# A window that is opened again

The preferences of a window are always those that the settings file would
give, and they decide how the editor looks.  An action that changes one of
them changes the other two along with it, and no other action changes any of
the three, since documents are kept in other files.

So a window that is opened again on the same directory looks as the first one
did, and the settings file has kept the values of the keys that are not known.
-/

namespace ClauseEditor

open Storage

/-! ## The appearance that preferences ask for -/

namespace Preferences

open Json

def appearance (preferences : Preferences) : Editor.Appearance where
  palette := preferences.palette
  unit := max 1 preferences.indentWidth
  wraps := preferences.wordWrap
  fontSize := max 6 (min 72 preferences.fontSize)

section Appearance

variable (preferences : Preferences)

theorem appearance_set_scheme (scheme : ColourScheme) :
    (preferences.set schemeKey (.string scheme.name)).appearance =
      { preferences.appearance with palette := scheme.palette } := by
  have named : Palette.named scheme.name = scheme.palette := by
    cases scheme with
    | dark => decide
    | light => decide
  simp only [appearance, palette, indentWidth, wordWrap, fontSize,
    get_set_self, named,
    get_set_of_ne (by decide : indentWidthKey ≠ schemeKey),
    get_set_of_ne (by decide : wordWrapKey ≠ schemeKey),
    get_set_of_ne (by decide : fontSizeKey ≠ schemeKey)]

theorem appearance_set_indentWidth (width : Int) :
    (preferences.set indentWidthKey (.integer width)).appearance =
      { preferences.appearance with unit := max 1 width } := by
  simp only [appearance, palette, indentWidth, wordWrap, fontSize,
    get_set_self,
    get_set_of_ne (by decide : schemeKey ≠ indentWidthKey),
    get_set_of_ne (by decide : wordWrapKey ≠ indentWidthKey),
    get_set_of_ne (by decide : fontSizeKey ≠ indentWidthKey)]

theorem appearance_set_wordWrap (wraps : Bool) :
    (preferences.set wordWrapKey (.bool wraps)).appearance =
      { preferences.appearance with wraps } := by
  simp only [appearance, palette, indentWidth, wordWrap, fontSize,
    get_set_self,
    get_set_of_ne (by decide : schemeKey ≠ wordWrapKey),
    get_set_of_ne (by decide : indentWidthKey ≠ wordWrapKey),
    get_set_of_ne (by decide : fontSizeKey ≠ wordWrapKey)]

theorem appearance_set_fontSize (size : Int) :
    (preferences.set fontSizeKey (.integer size)).appearance =
      { preferences.appearance with fontSize := max 6 (min 72 size) } := by
  simp only [appearance, palette, indentWidth, wordWrap, fontSize,
    get_set_self,
    get_set_of_ne (by decide : schemeKey ≠ fontSizeKey),
    get_set_of_ne (by decide : indentWidthKey ≠ fontSizeKey),
    get_set_of_ne (by decide : wordWrapKey ≠ fontSizeKey)]

end Appearance

end Preferences

namespace Window

/-! ## The settings file -/

theorem locate_settingsName (files : Files) :
    files.locate settingsName = .ok [settingsName] := rfl

/-- The values of unknown keys that the first files have are in the second. -/
def KeepsUnknown (first second : Files) : Prop :=
  ∀ members,
    Preferences.Holds first settingsName members →
      ∃ kept,
        Preferences.Holds second settingsName kept ∧
          ∀ key, key ∉ Preferences.knownKeys →
            Json.Members.find? kept key = Json.Members.find? members key

/-! ## What lasts -/

/--
The window looks as the settings file asks for, and its documents are in other
files; the files that it began with were `start`.
-/
structure Restorable (start : Files) (path : Text) (window : Window) : Prop where
  loaded :
    ∃ notices,
      Preferences.load window.files settingsName path =
        .ok (window.preferences, notices)
  appearance : window.editor.appearance = window.preferences.appearance
  elsewhere :
    ∀ name, window.file? = some name →
      start.locate name ≠ start.locate settingsName
  directories : window.files.isDirectory = start.isDirectory
  unknown : KeepsUnknown start window.files

theorem appearance_openOn
    {registry : Language.Registry}
    {files : Files}
    {directory : Text}
    {window : Window}
    (opened : openOn registry files directory = .ok window) :
    (∃ notices,
        Preferences.load files settingsName (pathIn directory settingsName) =
          .ok (window.preferences, notices)) ∧
      window.editor.appearance = window.preferences.appearance ∧
      window.files = files ∧ window.file? = none := by
  obtain ⟨preferences, notices, loaded, rfl, editor, same, noFile⟩ :=
    exists_load_of_openOn opened
  refine ⟨⟨notices, loaded⟩, ?_, same, noFile⟩
  rw [editor]
  exact Editor.appearance_setWrapping _ _

section Steps

variable {start : Files} {path : Text} {window : Window}

/-- Nothing but the editor and the status line changes. -/
theorem Restorable.of_same
    (restorable : Restorable start path window)
    {other : Window}
    (editor : other.editor.appearance = window.editor.appearance)
    (preferences : other.preferences = window.preferences)
    (files : other.files = window.files)
    (elsewhere :
      ∀ name, other.file? = some name →
        start.locate name ≠ start.locate settingsName) :
    Restorable start path other := by
  rcases restorable with ⟨loaded, appearance, _, directories, unknown⟩
  constructor
  · rwa [files, preferences]
  · rw [editor, preferences, appearance]
  · exact elsewhere
  · rwa [files]
  · rwa [files]

theorem Restorable.follow
    (restorable : Restorable start path window)
    {outcome : Editor.Outcome}
    (same : outcome.editor.appearance = window.editor.appearance) :
    Restorable start path (window.follow outcome) := by
  rw [Window.follow]
  dsimp only
  split
  · exact restorable.of_same same rfl rfl restorable.elsewhere
  · exact restorable.of_same same rfl rfl restorable.elsewhere

theorem Restorable.reindent
    (restorable : Restorable start path window) :
    Restorable start path window.reindent := by
  have followed :=
    restorable.follow (Editor.appearance_reindentDocument window.editor)
  rw [Window.reindent]
  exact followed.of_same rfl rfl rfl followed.elsewhere

/-! ### Documents -/

/-- Other bytes in a file that is not the settings file. -/
theorem Restorable.setFiles
    (restorable : Restorable start path window)
    {name : Text}
    {location : List Text}
    (elsewhere : start.locate name ≠ start.locate settingsName)
    (writable : window.files.writable name = .ok location)
    (bytes : List UInt8) :
    Restorable start path
      { window with files := window.files.set location (some (.file bytes)) } := by
  have leads := (Files.writable_eq_ok_iff.mp writable).1
  have different : [settingsName] ≠ location := by
    rintro rfl
    exact elsewhere ((Files.locate_eq_ok restorable.directories name).mp leads)
  have read :=
    Files.read_set_elsewhere writable (locate_settingsName window.files)
      different bytes
  have directories := Files.set_of_writable writable bytes
  constructor
  · rw [Preferences.load, read]
    exact restorable.loaded
  · exact restorable.appearance
  · exact restorable.elsewhere
  · rw [directories, restorable.directories]
  · intro members holds
    rcases restorable.unknown members holds with ⟨kept, stands, same⟩
    refine ⟨kept, ?_, same⟩
    rcases stands with ⟨bytes, text, found, rest⟩
    exact ⟨bytes, text, read.trans found, rest⟩

theorem Restorable.write
    (restorable : Restorable start path window)
    {name : Text}
    (elsewhere : start.locate name ≠ start.locate settingsName) :
    Restorable start path (window.write name).window := by
  rw [Window.write]
  split
  · exact restorable
  · exact restorable
  · rename_i location writable
    split
    · exact restorable.setFiles elsewhere writable []
    · rename_i bytes encoded
      have saved := restorable.setFiles elsewhere writable bytes
      exact saved.of_same rfl rfl rfl saved.elsewhere

theorem Restorable.setFile
    (restorable : Restorable start path window)
    {file? : Option Text}
    (elsewhere :
      ∀ name, file? = some name →
        start.locate name ≠ start.locate settingsName) :
    Restorable start path (window.setFile file?) :=
  restorable.of_same rfl rfl rfl elsewhere

theorem Restorable.load
    (restorable : Restorable start path window)
    {name : Text}
    (elsewhere : start.locate name ≠ start.locate settingsName) :
    Restorable start path (window.load name).window := by
  rcases window.load_cases name with ⟨same, _⟩ | ⟨text, shown⟩
  · rwa [same]
  · rw [shown]
    refine Restorable.setFile (restorable.follow rfl) ?_
    rintro _ ⟨⟩
    exact elsewhere

theorem Restorable.unlessKept
    (restorable : Restorable start path window)
    (reply : Reply)
    {next : Window → Outcome}
    (keeps : Restorable start path (next window).window) :
    Restorable start path (window.unlessKept reply next).window := by
  rw [Window.unlessKept]
  split
  · exact keeps
  · split
    · exact keeps
    · exact restorable

theorem Restorable.new
    (restorable : Restorable start path window)
    (reply : Reply) :
    Restorable start path (window.new reply).window := by
  apply restorable.unlessKept
  have emptied :
      Restorable start path (window.follow (window.editor.setText [])) :=
    restorable.follow rfl
  refine emptied.of_same rfl rfl rfl ?_
  rintro _ ⟨⟩

theorem Restorable.openPicked
    (restorable : Restorable start path window)
    {reply : Reply}
    (elsewhere :
      ∀ name ∈ reply.pick?.toList,
        start.locate name ≠ start.locate settingsName) :
    Restorable start path (window.openPicked reply).window := by
  apply restorable.unlessKept
  split
  · exact restorable
  · rename_i name picked
    exact restorable.load (elsewhere name (Option.mem_toList.mpr picked))

theorem Restorable.saveAs
    (restorable : Restorable start path window)
    {reply : Reply}
    (elsewhere :
      ∀ name ∈ reply.pick?.toList,
        start.locate name ≠ start.locate settingsName) :
    Restorable start path (window.saveAs reply).window := by
  rw [Window.saveAs]
  split
  · exact restorable
  · rename_i name picked
    have apart := elsewhere name (Option.mem_toList.mpr picked)
    have written := restorable.write apart
    dsimp only [Outcome.after]
    split
    · refine written.setFile ?_
      rintro _ ⟨⟩
      exact apart
    · exact written

theorem Restorable.save
    (restorable : Restorable start path window)
    {reply : Reply}
    (elsewhere :
      ∀ name ∈ reply.pick?.toList,
        start.locate name ≠ start.locate settingsName) :
    Restorable start path (window.save reply).window := by
  rw [Window.save]
  split
  · rename_i name current
    exact restorable.write (restorable.elsewhere name current)
  · exact restorable.saveAs elsewhere

/-! ### Preferences -/

/-- A preference is set, saved and shown by the editor. -/
theorem Restorable.persist
    (restorable : Restorable start path window)
    {key : Text}
    {isValid : Json → Bool}
    {value : Json}
    (listed : (key, isValid) ∈ Preferences.checks)
    (passes : isValid value = true)
    (wellFormed : value.WellFormed)
    (saves : (window.files.writable settingsName).isOk = true)
    {editor : Editor}
    (shows :
      editor.appearance = (window.preferences.set key value).appearance) :
    Restorable start path ({ window with editor }.persist key value) := by
  rcases restorable.loaded with ⟨notices, loaded⟩
  rcases Preferences.sound_of_load loaded with ⟨valid, text⟩
  have known : key ∈ Preferences.knownKeys := List.mem_map_of_mem listed
  have stillValid := valid.set listed passes
  have stillText :
      (window.preferences.set key value).toJson.WellFormed :=
    Preferences.wellFormed_insert text
      (Preferences.unpaired_of_mem_knownKeys key known) wellFormed
  rcases Preferences.save_of_isOk_writable saves
      (window.preferences.set key value).toJson with ⟨written, saved⟩
  rw [Window.persist]
  dsimp only
  rw [saved]
  constructor
  · exact ⟨[], Preferences.load_of_save stillValid stillText saved path⟩
  · exact shows
  · exact restorable.elsewhere
  · rcases Preferences.exists_of_save saved with ⟨location, writable, rfl⟩
    rw [← restorable.directories]
    exact Files.set_of_writable writable _
  · intro members holds
    rcases restorable.unknown members holds with ⟨kept, stands, same⟩
    have current : window.preferences = (Preferences.ofMembers kept).1 := by
      rw [Preferences.load_of_holds stands] at loaded
      generalize Preferences.ofMembers kept = result at loaded ⊢
      exact (Prod.mk.inj (Except.ok.inj loaded)).1.symm
    refine ⟨_, Preferences.holds_of_save stillText saved, ?_⟩
    intro other unknown
    have different : other ≠ key := by
      rintro rfl
      exact unknown known
    rw [Preferences.set, Json.Members.find?_insert_of_ne different, current,
      Preferences.find?_ofMembers unknown, same other unknown]

theorem Restorable.chooseScheme
    (restorable : Restorable start path window)
    (saves : (window.files.writable settingsName).isOk = true)
    (scheme : ColourScheme) :
    Restorable start path (window.chooseScheme scheme) := by
  have unpaired : Json.Unpaired scheme.name := by
    cases scheme with
    | dark => decide
    | light => decide
  refine restorable.persist (by simp [Preferences.checks])
    (Preferences.isSchemeName_name scheme) (.string unpaired) saves ?_
  rw [Preferences.appearance_set_scheme, ← restorable.appearance]
  rfl

theorem Restorable.chooseWidth
    (restorable : Restorable start path window)
    (saves : (window.files.writable settingsName).isOk = true)
    {width : Int}
    (positive : 0 < width) :
    Restorable start path (window.chooseWidth width) := by
  have persisted :
      Restorable start path
        ({ window with editor := window.editor.setIndentWidth width }.persist
          Preferences.indentWidthKey (.integer width)) := by
    refine restorable.persist (by simp [Preferences.checks])
      (Preferences.isSize_of_pos positive) (.integer width) saves ?_
    rw [Preferences.appearance_set_indentWidth, ← restorable.appearance]
    rfl
  exact persisted.of_same rfl rfl rfl persisted.elsewhere

/-- A size between the bounds is saved, so it is the same after loading. -/
theorem Restorable.setFontSize
    (restorable : Restorable start path window)
    (saves : (window.files.writable settingsName).isOk = true)
    (size : Int) :
    Restorable start path
      ({ window with editor := window.editor.setFontSize size }.persist
        Preferences.fontSizeKey
        (.integer (window.editor.setFontSize size).fontSize)) := by
  have bounds : (window.editor.setFontSize size).fontSize = max 6 (min 72 size) :=
    rfl
  have positive : 0 < (window.editor.setFontSize size).fontSize := by
    omega
  have again :
      max 6 (min 72 (window.editor.setFontSize size).fontSize) =
        (window.editor.setFontSize size).fontSize := by
    omega
  refine restorable.persist (by simp [Preferences.checks])
    (Preferences.isSize_of_pos positive) (.integer _) saves ?_
  rw [Preferences.appearance_set_fontSize, again, ← restorable.appearance]
  rfl

theorem Restorable.changeFont
    (restorable : Restorable start path window)
    (saves : (window.files.writable settingsName).isOk = true)
    (change : FontChange) :
    Restorable start path (window.changeFont change) := by
  cases change with
  | increase => exact restorable.setFontSize saves _
  | decrease => exact restorable.setFontSize saves _
  | reset => exact restorable.setFontSize saves _

theorem Restorable.toggleWrap
    (restorable : Restorable start path window)
    (saves : (window.files.writable settingsName).isOk = true) :
    Restorable start path window.toggleWrap := by
  have passes (wraps : Bool) :
      Preferences.isTruthValue (.bool wraps) = true := rfl
  refine restorable.persist (by simp [Preferences.checks]) (passes _)
    (.bool _) saves ?_
  rw [Editor.appearance_setWrapping, Preferences.appearance_set_wordWrap,
    restorable.appearance]

end Steps

/-! ## Actions -/

/-- The names of the documents that an action asks for. -/
def Action.names : Action → List Text
  | .load name => [name]
  | .openPicked reply => reply.pick?.toList
  | .save reply => reply.pick?.toList
  | .saveAs reply => reply.pick?.toList
  | _ => []

/-- The actions that write the settings file. -/
def Action.savesPreferences : Action → Bool
  | .chooseScheme _ => true
  | .chooseWidth _ => true
  | .changeFont _ => true
  | .toggleWrap => true
  | _ => false

/--
The actions that the menus and the editor offer: an indent width is positive,
and only the window changes how the editor looks.
-/
def Action.isOffered : Action → Bool
  | .chooseWidth width => 0 < width
  | .edit command => !command.setsAppearance
  | _ => true

section Runs

variable
    {registry : Language.Registry}
    {start : Files}
    {path directory : Text}
    {window : Window}

theorem Restorable.perform
    (restorable : Restorable start path window)
    {action : Action}
    (offered : action.isOffered = true)
    (elsewhere :
      ∀ name ∈ action.names, start.locate name ≠ start.locate settingsName)
    (saves :
      action.savesPreferences = true →
        (window.files.writable settingsName).isOk = true) :
    Restorable start path (window.perform action).window := by
  cases action with
  | load name => exact restorable.load (elsewhere name List.mem_cons_self)
  | new reply => exact restorable.new reply
  | openPicked reply => exact restorable.openPicked elsewhere
  | save reply => exact restorable.save elsewhere
  | saveAs reply => exact restorable.saveAs elsewhere
  | close reply => exact restorable.unlessKept reply restorable
  | chooseScheme scheme => exact restorable.chooseScheme (saves rfl) scheme
  | chooseWidth width =>
      exact restorable.chooseWidth (saves rfl) (of_decide_eq_true offered)
  | changeFont change => exact restorable.changeFont (saves rfl) change
  | toggleWrap => exact restorable.toggleWrap (saves rfl)
  | reindent => exact restorable.reindent
  | toggleComment =>
      exact restorable.follow (Editor.appearance_toggleComment window.editor)
  | edit command =>
      have plain : command.setsAppearance = false :=
        (Bool.not_eq_true' _).mp offered
      exact restorable.follow (Editor.appearance_perform plain window.editor)

theorem performAll_concat (actions : List Action) (action : Action) :
    (window.performAll (actions ++ [action])).window =
      ((window.performAll actions).window.perform action).window := by
  rw [performAll, List.foldl_append]
  rfl

/-- The settings file could be written whenever an action was to do so. -/
def SavesAll (window : Window) (actions : List Action) : Prop :=
  ∀ (before : List Action) (action : Action),
    before ++ [action] <+: actions →
      action.savesPreferences = true →
        ((window.performAll before).window.files.writable settingsName).isOk =
          true

theorem savesAll_of_all
    {actions : List Action}
    (written :
      (actions.inits.all fun before =>
        ((window.performAll before).window.files.writable
          settingsName).isOk) = true) :
    SavesAll window actions := by
  intro before action leads _
  have inside : before ∈ actions.inits :=
    (List.mem_inits _ _).mpr ((List.prefix_append _ _).trans leads)
  exact List.all_eq_true.mp written before inside

theorem Restorable.performAll
    (restorable : Restorable start path window)
    {actions : List Action}
    (offered : ∀ action ∈ actions, action.isOffered = true)
    (elsewhere :
      ∀ action ∈ actions, ∀ name ∈ action.names,
        start.locate name ≠ start.locate settingsName)
    (saves : SavesAll window actions) :
    Restorable start path (window.performAll actions).window := by
  induction actions using List.reverseRecOn with
  | nil => exact restorable
  | append_singleton actions action induction =>
      rw [List.forall_mem_append] at offered elsewhere
      have before :=
        induction offered.1 elsewhere.1 fun done action leads =>
          saves done action (leads.trans (List.prefix_append _ _))
      rw [performAll_concat]
      exact before.perform
        (offered.2 action List.mem_cons_self)
        (elsewhere.2 action List.mem_cons_self)
        (saves actions action List.prefix_rfl)

/-! ## The second window -/

theorem restorable_openOn
    (opened : openOn registry start directory = .ok window) :
    Restorable start (pathIn directory settingsName) window := by
  rcases appearance_openOn opened with ⟨loaded, appearance, files, file⟩
  constructor
  · rwa [files]
  · exact appearance
  · rw [file]
    rintro _ ⟨⟩
  · rw [files]
  · rw [files]
    exact fun members holds => ⟨members, holds, fun _ _ => rfl⟩

theorem Restorable.exists_openOn
    (restorable : Restorable start (pathIn directory settingsName) window)
    (registry : Language.Registry) :
    ∃ again,
      openOn registry window.files directory = .ok again ∧
        again.preferences = window.preferences ∧
        again.editor.appearance = window.editor.appearance := by
  rcases restorable.loaded with ⟨notices, loaded⟩
  cases opened : openOn registry window.files directory with
  | error fault =>
      rw [openOn, loaded] at opened
      cases opened
  | ok again =>
      rcases appearance_openOn opened with ⟨⟨_, same⟩, appearance, _⟩
      rw [loaded] at same
      have preferences := (Prod.mk.inj (Except.ok.inj same)).1
      refine ⟨again, rfl, preferences.symm, ?_⟩
      rw [appearance, ← preferences, restorable.appearance]

/--
A window that is opened after any actions, with their documents in other files
and the settings file always written, has the preferences of the first window
and looks like it.  If the file held an object at first, it still does, and
every key that is not known has its value.
-/
theorem openOn_performAll
    {actions : List Action}
    (opened : openOn registry start directory = .ok window)
    (offered : ∀ action ∈ actions, action.isOffered = true)
    (elsewhere :
      ∀ action ∈ actions, ∀ name ∈ action.names,
        start.locate name ≠ start.locate settingsName)
    (saves : SavesAll window actions) :
    let last := (window.performAll actions).window
    (∃ again,
        openOn registry last.files directory = .ok again ∧
          again.preferences = last.preferences ∧
          again.editor.appearance = last.editor.appearance) ∧
      KeepsUnknown start last.files := by
  intro last
  have restorable :=
    (restorable_openOn opened).performAll offered elsewhere saves
  exact ⟨restorable.exists_openOn registry, restorable.unknown⟩

/--
A file with an unknown theme, a font that is too large and another key: the
actions change all of the appearance, and the other key is kept.
-/
theorem openOn_performAll_sample :
    let members : Json.Members :=
      [(Preferences.schemeKey, .string (Text.ofString "blue")),
        (Text.ofString "recent", .array [.null]),
        (Preferences.fontSizeKey, .integer 200)]
    let actions : List Action :=
      [.chooseScheme .light, .changeFont .decrease,
        .edit (.type (Text.ofString "p(") false), .toggleWrap,
        .saveAs ⟨true, some (Text.ofString "a.scl")⟩, .chooseWidth 4,
        .openPicked ⟨true, some (Text.ofString "a.scl")⟩]
    ∃ start window,
      Preferences.save .empty settingsName (.object members) = .ok start ∧
        openOn .start start [] = .ok window ∧
        let last := (window.performAll actions).window
        (∃ again,
            openOn .start last.files [] = .ok again ∧
              again.editor.appearance =
                ⟨ColourScheme.light.palette, 4, false, 71⟩) ∧
          ∃ kept,
            Preferences.Holds last.files settingsName kept ∧
              kept.find? (Text.ofString "recent") = some (.array [.null]) := by
  intro members actions
  obtain ⟨start, saved, elsewhere, ran⟩ :
      ∃ start,
        Preferences.save .empty settingsName (.object members) = .ok start ∧
          (∀ action ∈ actions, ∀ name ∈ action.names,
            start.locate name ≠ start.locate settingsName) ∧
          ((openOn .start start []).toOption.any fun window =>
            (actions.inits.all fun before =>
              ((window.performAll before).window.files.writable
                settingsName).isOk) &&
              decide
                ((window.performAll actions).window.editor.appearance =
                  ⟨ColourScheme.light.palette, 4, false, 71⟩)) = true :=
    ⟨_, rfl, by decide +kernel, by decide +kernel⟩
  have wellFormed : Json.WellFormed (.object members) := by
    refine .object (by decide) (by decide) ?_
    simp only [members, List.forall_mem_cons]
    exact ⟨.string (by decide),
      .array (List.forall_mem_cons.mpr ⟨.null, List.forall_mem_nil _⟩),
      .integer _, List.forall_mem_nil _⟩
  cases opened : openOn .start start [] with
  | error fault =>
      rw [opened] at ran
      cases ran
  | ok window =>
      rw [opened] at ran
      rcases Bool.and_eq_true_iff.mp ran with ⟨written, shown⟩
      rcases openOn_performAll opened (by decide) elsewhere
          (savesAll_of_all written) with
        ⟨⟨again, reopened, _, same⟩, keeps⟩
      rcases keeps members (Preferences.holds_of_save wellFormed saved) with
        ⟨kept, holds, find⟩
      exact ⟨start, window, saved, opened,
        ⟨again, reopened, same.trans (of_decide_eq_true shown)⟩,
        kept, holds, find _ (by decide)⟩

end Runs

end Window

end ClauseEditor
