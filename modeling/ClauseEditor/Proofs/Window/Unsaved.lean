import ClauseEditor.Proofs.Editor.Blocks
import ClauseEditor.Window.Action

/-!
# Unsaved text is not lost

The text of a window is settled when the window opens, and again each time a
file has been opened, the document has been written or an empty document has
been started.  All that happens in between is edit blocks and steps of the
history, so a document that counts as unmodified has the text that was settled
last: the state that counts as saved is never any other one, whichever
attempts fail and whatever becomes of the files meanwhile.

A modified document is asked about before it is given up, and the answer no
leaves the window as it is.
-/

namespace ClauseEditor.Window

open Document
open Storage

/-! ## What happens to a window -/

/-- A user acts, or the files change behind the back of the window. -/
inductive Event where
  | act (action : Action)
  | changeFiles (files : Files)

def undergo (window : Window) : Event → Window
  | .act action => (window.perform action).window
  | .changeFiles files => { window with files }

def undergoAll (window : Window) (events : List Event) : Window :=
  events.foldl undergo window

/-- Opens or writes a document, or starts one. -/
def Action.handlesDocument : Action → Bool
  | .load _ | .new _ | .openPicked _ | .save _ | .saveAs _ => true
  | _ => false

/-- No program puts a text into the editor. -/
def Event.isOfUser : Event → Bool
  | .act (.edit command) => !command.setsText
  | _ => true

/-- The event opens, writes or starts a document and succeeds. -/
def Event.settles (event : Event) (window : Window) : Bool :=
  match event with
  | .act action => action.handlesDocument && (window.perform action).done
  | .changeFiles _ => false

/-- The text that was settled last if `settled` was so before some events. -/
def lastSettled (window : Window) (settled : Text) : List Event → Text
  | [] => settled
  | event :: events =>
    let next := window.undergo event
    next.lastSettled
      (if event.settles window then next.editor.text else settled) events

/-! ## The settled text -/

/-- The state of the document that counts as saved has the settled text. -/
structure Guards (settled : Text) (window : Window) : Prop where
  sound : window.editor.Sound
  saves :
    ∃ content,
      plainText content = settled ∧ window.editor.document.Saves content

/-- The same of the text that an operation leaves settled. -/
def Outcome.Guards (settled : Text) (outcome : Outcome) : Prop :=
  Window.Guards
    (if outcome.done then outcome.window.editor.text else settled)
    outcome.window

theorem sound_markSaved
    {editor : Editor}
    (sound : editor.Sound) :
    Editor.Sound { editor with document := editor.document.markSaved } := by
  rcases sound with ⟨consistent, position_le, anchor_le, coherent, width⟩
  exact
    ⟨⟨consistent.past, consistent.future⟩, position_le, anchor_le, coherent,
      width⟩

section Guards

variable {settled : Text} {window : Window}

/-- An unmodified document has the settled text. -/
theorem Guards.text_eq
    (guards : Guards settled window)
    (unmodified : window.editor.document.isModified = false) :
    window.editor.text = settled := by
  rcases guards.saves with ⟨content, rfl, saves⟩
  exact congrArg plainText (saves.content_eq unmodified)

/-- Nothing counts but what the soundness of the editor is about. -/
theorem Guards.of_same
    (guards : Guards settled window)
    {other : Window}
    (document : other.editor.document = window.editor.document)
    (cursor : other.editor.cursor = window.editor.cursor)
    (memo : other.editor.memo = window.editor.memo)
    (tabWidth : other.editor.style.tabWidth = window.editor.style.tabWidth) :
    Guards settled other where
  sound := guards.sound.of_same document cursor memo tabWidth
  saves := by
    rw [document]
    exact guards.saves

theorem Guards.of_editor
    (guards : Guards settled window)
    {other : Window}
    (editor : other.editor = window.editor) :
    Guards settled other :=
  guards.of_same (congrArg _ editor) (congrArg _ editor) (congrArg _ editor)
    (congrArg (·.style.tabWidth) editor)

/-- A command of the editor leaves the saved state alone. -/
theorem Guards.edit
    (guards : Guards settled window)
    {command : Editor.Command}
    (edits : command.setsText = false) :
    Guards settled (window.follow (window.editor.perform command)) := by
  constructor
  · rw [editor_follow]
    exact guards.sound.perform command
  · rcases guards.saves with ⟨content, same, saves⟩
    refine ⟨content, same, ?_⟩
    rw [editor_follow]
    exact (lasting_saves content).perform guards.sound saves edits

/-- The text is settled if the state that counts as saved is the present one. -/
theorem guards_of_saves
    (sound : window.editor.Sound)
    (saves : window.editor.document.Saves window.editor.content) :
    Guards window.editor.text window :=
  ⟨sound, _, rfl, saves⟩

/-- A text that an editor has just been given is settled. -/
theorem guards_setText
    (window : Window)
    {editor : Editor}
    (sound : editor.Sound)
    (text : Text) :
    Guards (window.follow (editor.setText text)).editor.text
      (window.follow (editor.setText text)) := by
  apply guards_of_saves
  · rw [editor_follow]
    exact sound.setText text
  · rw [editor_follow]
    exact saves_ofText text

/-! ## Operations -/

theorem Guards.refuse
    (guards : Guards settled window)
    (dialogs : List Dialog) :
    Outcome.Guards settled (window.refuse dialogs) :=
  guards

theorem Guards.load
    (guards : Guards settled window)
    (name : Text) :
    Outcome.Guards settled (window.load name) := by
  rcases window.load_cases name with ⟨same, failed⟩ | ⟨text, shown⟩
  · rw [Outcome.Guards, same, failed]
    exact guards
  · rw [shown]
    have sound :
        (window.editor.setMode
          ((window.registry.forPath? name).getD
            window.registry.default)).Sound :=
      guards.sound.of_same rfl rfl rfl rfl
    exact (guards_setText window sound text).of_editor rfl

theorem Guards.write
    (guards : Guards settled window)
    (name : Text) :
    Outcome.Guards settled (window.write name) := by
  rw [Window.write]
  split
  · exact guards
  · exact guards
  · split
    · exact guards.of_editor rfl
    · rcases guards with ⟨sound, content, same, saves⟩
      exact guards_of_saves (sound_markSaved sound) saves.markSaved

theorem Guards.unlessKept
    (guards : Guards settled window)
    (reply : Reply)
    {next : Window → Outcome}
    (guarded : Outcome.Guards settled (next window)) :
    Outcome.Guards settled (window.unlessKept reply next) := by
  rw [Window.unlessKept]
  split
  · exact guarded
  · split
    · exact guarded
    · exact guards.refuse _

theorem Guards.new
    (guards : Guards settled window)
    (reply : Reply) :
    Outcome.Guards settled (window.new reply) := by
  apply guards.unlessKept
  exact (guards_setText window guards.sound []).of_same rfl rfl rfl rfl

theorem Guards.openPicked
    (guards : Guards settled window)
    (reply : Reply) :
    Outcome.Guards settled (window.openPicked reply) := by
  apply guards.unlessKept
  split
  · exact guards.refuse _
  · exact guards.load _

theorem Guards.saveAs
    (guards : Guards settled window)
    (reply : Reply) :
    Outcome.Guards settled (window.saveAs reply) := by
  rw [Window.saveAs]
  split
  · exact guards.refuse _
  · rename_i name picked
    have written := guards.write name
    generalize window.write name = outcome at written ⊢
    rcases outcome with ⟨next, dialogs, done, failure?⟩
    cases done with
    | false => exact written
    | true => exact written.of_editor rfl

theorem Guards.save
    (guards : Guards settled window)
    (reply : Reply) :
    Outcome.Guards settled (window.save reply) := by
  rw [Window.save]
  split
  · exact guards.write _
  · exact guards.saveAs reply

/-! ## One event -/

/-- An operation that handles documents settles the text if it succeeds. -/
theorem Guards.handle
    (guards : Guards settled window)
    {action : Action}
    (handles : action.handlesDocument = true) :
    Outcome.Guards settled (window.perform action) := by
  cases action with
  | load name => exact guards.load name
  | new reply => exact guards.new reply
  | openPicked reply => exact guards.openPicked reply
  | save reply => exact guards.save reply
  | saveAs reply => exact guards.saveAs reply
  | _ => cases handles

/-- No other action of a user settles a text. -/
theorem Guards.act
    (guards : Guards settled window)
    {action : Action}
    (ofUser : (Event.act action).isOfUser = true)
    (handles : action.handlesDocument = false) :
    Guards settled (window.perform action).window := by
  cases action with
  | close reply =>
      rw [perform, Window.close, Window.unlessKept]
      split
      · exact guards
      · split <;> exact guards
  | chooseScheme scheme => exact guards.of_same rfl rfl rfl rfl
  | chooseWidth width => exact guards.of_same rfl rfl rfl rfl
  | changeFont change =>
      cases change <;> exact guards.of_same rfl rfl rfl rfl
  | toggleWrap =>
      have wrapped :=
        @Guards.edit _ _ guards
          (.setWrapping !window.preferences.wordWrap) rfl
      exact wrapped.of_editor rfl
  | reindent =>
      have reindented := @Guards.edit _ _ guards .reindentDocument rfl
      exact reindented.of_editor rfl
  | toggleComment => exact @Guards.edit _ _ guards .toggleComment rfl
  | edit command =>
      exact guards.edit (by simpa [Event.isOfUser] using ofUser)
  | _ => cases handles

/-- Every event leaves the text guarded that is settled after it. -/
theorem Guards.undergo
    (guards : Guards settled window)
    {event : Event}
    (ofUser : event.isOfUser = true) :
    Guards
      (if event.settles window then (window.undergo event).editor.text
        else settled)
      (window.undergo event) := by
  cases event with
  | changeFiles files => exact guards.of_editor rfl
  | act action =>
      cases handles : action.handlesDocument with
      | false =>
          rw [Event.settles, handles]
          exact guards.act ofUser handles
      | true =>
          rw [Event.settles, handles, Bool.true_and]
          exact guards.handle handles

end Guards

/-! ## Events one after another -/

theorem Guards.undergoAll
    {settled : Text}
    {window : Window}
    (guards : Guards settled window)
    {events : List Event}
    (ofUser : ∀ event ∈ events, event.isOfUser = true) :
    Guards (window.lastSettled settled events) (window.undergoAll events) := by
  induction events generalizing window settled with
  | nil => exact guards
  | cons event events induction =>
      exact induction (guards.undergo (ofUser event List.mem_cons_self))
        fun other member => ofUser other (List.mem_cons_of_mem event member)

theorem document_setWrapping (editor : Editor) (wraps : Bool) :
    (editor.setWrapping wraps).document = editor.document := by
  rw [Editor.setWrapping]
  split <;> rfl

theorem guards_openOn
    {registry : Language.Registry}
    {files : Files}
    {directory : Text}
    {window : Window}
    (opened : openOn registry files directory = .ok window) :
    Guards window.editor.text window := by
  obtain ⟨preferences, _, _, _, editor, _, _⟩ := exists_load_of_openOn opened
  have sound :
      (((Editor.start preferences.palette registry.default).setFontSize
        preferences.fontSize).setIndentWidth preferences.indentWidth).Sound :=
    (Editor.sound_start preferences.palette registry.default).of_same rfl rfl
      rfl rfl
  apply guards_of_saves
  · rw [editor]
    exact sound.setWrapping _
  · rw [editor, Editor.content, document_setWrapping]
    exact saves_ofText []

/-! ## Questions -/

theorem asks_unlessKept
    {window : Window}
    (modified : window.editor.document.isModified = true)
    (reply : Reply)
    (next : Window → Outcome) :
    Dialog.unsavedChanges ∈ (window.unlessKept reply next).dialogs ∧
      (reply.discard = false →
        (window.unlessKept reply next).window = window ∧
          (window.unlessKept reply next).done = false) := by
  rw [unlessKept, if_neg (ne_false_of_eq_true modified)]
  split
  · rename_i discard
    refine ⟨List.mem_cons_self, fun keep => ?_⟩
    rw [discard] at keep
    cases keep
  · exact ⟨List.mem_cons_self, fun _ => ⟨rfl, rfl⟩⟩

/--
Whatever a user does to a window that has been opened, and whatever becomes of
the files meanwhile, a document that is not modified has the text that it had
when a file was last opened or written, when an empty document was last
started, or at first.  One that is modified is not given up without a
question, and not at all if the answer is no.
-/
theorem unmodified_text_openOn
    {registry : Language.Registry}
    {files : Files}
    {directory : Text}
    {window : Window}
    (opened : openOn registry files directory = .ok window)
    {events : List Event}
    (ofUser : ∀ event ∈ events, event.isOfUser = true) :
    let last := window.undergoAll events
    (last.editor.document.isModified = false →
        last.editor.text = window.lastSettled window.editor.text events) ∧
      (last.editor.document.isModified = true →
        ∀ reply : Reply,
          ∀ action ∈ [Action.new reply, .openPicked reply, .close reply],
            Dialog.unsavedChanges ∈ (last.perform action).dialogs ∧
              (reply.discard = false →
                (last.perform action).window = last ∧
                  (last.perform action).done = false)) := by
  have guards := (guards_openOn opened).undergoAll ofUser
  refine ⟨guards.text_eq, ?_⟩
  intro modified reply action listed
  simp only [List.mem_cons, List.not_mem_nil, or_false] at listed
  rcases listed with rfl | rfl | rfl <;>
    exact asks_unlessKept modified reply _

/--
A document that is opened and changed, a save that fails because a directory
has taken the place of the file, and the change undone: the text is that of
the file.  With the change made again the document is not given up.
-/
theorem unmodified_text_sample :
    let files : Files :=
      ⟨[([Text.ofString "a.scl"], .file (List.map (UInt8.ofNat ∘ Char.toNat)
        ['p', '(', ')', '.']))]⟩
    let barred : Files := ⟨[([Text.ofString "a.scl"], .directory)]⟩
    let events : List Event :=
      [.act (.load (Text.ofString "a.scl")),
        .act (.edit (.type (Text.ofString "q") false)),
        .changeFiles barred, .act (.save ⟨true, none⟩),
        .act (.edit .undo)]
    ∃ window,
      openOn .start files [] = .ok window ∧
        (∀ event ∈ events, event.isOfUser = true) ∧
        (window.undergoAll events).editor.document.isModified = false ∧
        (window.undergoAll events).editor.text =
          window.lastSettled window.editor.text events ∧
        window.lastSettled window.editor.text events =
          Text.ofString "p()." ∧
        let changed := window.undergoAll (events ++ [.act (.edit .redo)])
        (changed.perform (.new ⟨false, none⟩)).window = changed := by
  intro files barred events
  have ofUser : ∀ event ∈ events, event.isOfUser = true := by decide
  have again :
      ∀ event ∈ events ++ [.act (.edit .redo)], event.isOfUser = true := by
    decide
  have ran :
      ((openOn .start files []).toOption.any fun window =>
        !(window.undergoAll events).editor.document.isModified &&
          decide
            (window.lastSettled window.editor.text events =
              Text.ofString "p().") &&
          (window.undergoAll
            (events ++ [.act (.edit .redo)])).editor.document.isModified) =
        true := by
    decide +kernel
  cases opened : openOn .start files [] with
  | error fault =>
      rw [opened] at ran
      cases ran
  | ok window =>
      rw [opened] at ran
      rcases Bool.and_eq_true_iff.mp ran with ⟨undone, changed⟩
      rcases Bool.and_eq_true_iff.mp undone with ⟨unmodified, settled⟩
      have kept := unmodified_text_openOn opened ofUser
      have asked := (unmodified_text_openOn opened again).2 changed
        ⟨false, none⟩ _ List.mem_cons_self
      rw [Bool.not_eq_true'] at unmodified
      exact
        ⟨window, rfl, ofUser, unmodified, kept.1 unmodified,
          of_decide_eq_true settled, (asked.2 rfl).1⟩

end ClauseEditor.Window
