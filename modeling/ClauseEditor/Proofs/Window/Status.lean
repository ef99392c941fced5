import ClauseEditor.Proofs.Editor.CursorReports
import ClauseEditor.Proofs.Json.Ascii
import ClauseEditor.Proofs.Window.Unsaved
import ClauseEditor.Proofs.Window.Zoom

/-!
# What the status line tells

The position of the cursor is written into the status line whenever the cursor
is reported, with the file that is current at that moment.  All commands after
which the cursor is at another place report it, so the line and the column in
the message are those of the cursor, unless the report is that of a step of the
history that has put the cursor back to the position where it was.

The file need not be the current one.  Opening a file and starting an empty
document move the cursor before they make another file the current one, and
saving under another name does not move it.  The message names the other file
from the next report of the cursor on.
-/

namespace ClauseEditor

open Json

/-! ## Messages with a position -/

/-- Digits at the end of a text can be told from what stands before them. -/
theorem Text.append_ofNat_inj
    {text other : Text}
    (ends : NoDigit text.reverse)
    (otherEnds : NoDigit other.reverse)
    {n m : Nat}
    (same : text ++ ofNat n = other ++ ofNat m) :
    text = other ∧ n = m := by
  have digits (n : Nat) : Digits (ofNat n).reverse :=
    fun c member => digits_ofNat n c (List.mem_reverse.mp member)
  have behind {text : Text} (ends : NoDigit text.reverse) (n : Nat) :
      (text ++ ofNat n).reverse.takeWhile isDigit = (ofNat n).reverse := by
    rw [List.reverse_append]
    exact takeWhile_digits (digits n) ends
  have sameDigits : ofNat n = ofNat m := by
    rw [← List.reverse_inj, ← behind ends n, same, behind otherEnds m]
  rw [sameDigits] at same
  have sameValue := congrArg digitsValue sameDigits
  rw [digitsValue_ofNat, digitsValue_ofNat] at sameValue
  exact ⟨List.append_cancel_right same, sameValue⟩

namespace Window

open Document
open Storage

/-- The message that the cursor is at a position of a file. -/
def positionMessage (path : Text) (line column : Nat) : Text :=
  path ++ Text.ofString " — Line " ++ Text.ofNat line ++
    Text.ofString ", Column " ++ Text.ofNat column

/-- A message tells one position only. -/
theorem positionMessage_inj
    {path other : Text}
    {line column otherLine otherColumn : Nat}
    (same :
      positionMessage path line column =
        positionMessage other otherLine otherColumn) :
    path = other ∧ line = otherLine ∧ column = otherColumn := by
  have ends (text : Text) (label : String)
      (space : (Text.ofString label).getLast? = some ' ') :
      NoDigit (text ++ Text.ofString label).reverse := by
    intro c last
    rw [List.head?_reverse, List.getLast?_append, space] at last
    cases last
    rfl
  rcases Text.append_ofNat_inj (ends _ _ rfl) (ends _ _ rfl) same with
    ⟨sameFront, sameColumn⟩
  rcases Text.append_ofNat_inj (ends _ _ rfl) (ends _ _ rfl)
      (List.append_cancel_right sameFront) with
    ⟨samePath, sameLine⟩
  exact ⟨List.append_cancel_right samePath, sameLine, sameColumn⟩

/-- The dash in it tells a message with a position from the other ones. -/
theorem ne_positionMessage_of_ascii
    {text : Text}
    (ascii : Ascii text)
    (path : Text)
    (line column : Nat) :
    text ≠ positionMessage path line column := by
  rintro rfl
  have dash :
      CodePoint.ofChar '—' ∈ positionMessage path line column := by
    have label : CodePoint.ofChar '—' ∈ Text.ofString " — Line " := by decide
    simp [positionMessage, label]
  exact absurd (ascii _ dash) (by decide)

/-- How the status line names a file, or that there is none. -/
def shownPath (window : Window) (file? : Option Text) : Text :=
  (file?.map window.path).getD (Text.ofString "Untitled")

/-- The message that names a file and a place in it. -/
def messageFor
    (window : Window)
    (file? : Option Text)
    (place : Place) :
    Text :=
  positionMessage (window.shownPath file?) (place.line + 1) (place.column + 1)

theorem placeReport_eq (window : Window) (place : Place) :
    window.placeReport place = window.messageFor window.file? place := rfl

/-- A message names one place in a file that is shown in one way. -/
theorem messageFor_inj
    {window : Window}
    {file? other? : Option Text}
    {place other : Place} :
    window.messageFor file? place = window.messageFor other? other ↔
      window.shownPath file? = window.shownPath other? ∧ place = other := by
  constructor
  · intro same
    rcases positionMessage_inj same with ⟨path, line, column⟩
    rcases place with ⟨line₁, column₁⟩
    rcases other with ⟨line₂, column₂⟩
    cases Nat.add_right_cancel line
    cases Nat.add_right_cancel column
    exact ⟨path, rfl⟩
  · rintro ⟨path, rfl⟩
    rw [messageFor, path, messageFor]

/-! ## Reports -/

/-- What a window has been told of the cursor. -/
structure Report where
  /-- The file that was current then. -/
  file? : Option Text
  place : Place
  /-- The report is that of a step that left the cursor at its position. -/
  returned : Bool
deriving DecidableEq

/-- What an action reports of the cursor. -/
def report? (window : Window) (action : Action) : Option Report :=
  let atStart : Report := ⟨window.file?, ⟨0, 0⟩, false⟩
  match action with
  | .load name => if (window.load name).done then some atStart else none
  | .new reply => if (window.new reply).done then some atStart else none
  | .openPicked reply =>
    if (window.openPicked reply).done then some atStart else none
  | .toggleComment =>
    window.editor.toggleComment.reported?.map
      (⟨window.file?, ·, false⟩)
  | .edit command =>
    (window.editor.perform command).reported?.map
      (⟨window.file?, ·, window.editor.returns command⟩)
  | _ => none

/-- An action reports something that is no position. -/
def Action.reportsElse : Action → Bool
  | .chooseWidth _ | .reindent => true
  | _ => false

/--
The report whose message the status line has after an action, from the same
before it.
-/
def nextReport?
    (window : Window)
    (report? : Option Report)
    (action : Action) :
    Option Report :=
  if action.reportsElse then none else (window.report? action).or report?

/-- The same for actions one after another. -/
def lastReport?
    (window : Window)
    (report? : Option Report) :
    List Action → Option Report
  | [] => report?
  | action :: actions =>
    (window.perform action).window.lastReport?
      (window.nextReport? report? action) actions

/--
The status line has the message of a report, or one without a position if
there is none.  The place that was reported is that of the cursor.
-/
structure Shows (report? : Option Report) (window : Window) : Prop where
  sound : window.editor.Sound
  hides :
    report? = none →
      ∀ path line column, window.status ≠ positionMessage path line column
  tells :
    ∀ report ∈ report?,
      window.status = window.messageFor report.file? report.place
  fresh :
    ∀ report ∈ report?,
      report.returned = false → report.place = window.editor.place

/-- The same after an operation that shows a text from its start, or nothing. -/
def Outcome.Shows
    (report? : Option Report)
    (file? : Option Text)
    (outcome : Outcome) :
    Prop :=
  Window.Shows
    ((if outcome.done then some ⟨file?, ⟨0, 0⟩, false⟩ else none).or report?)
    outcome.window

section Shows

variable {report? : Option Report} {window : Window}

theorem shows_of_ascii
    (sound : window.editor.Sound)
    (ascii : Ascii window.status) :
    Shows none window :=
  ⟨sound, fun _ => ne_positionMessage_of_ascii ascii, nofun, nofun⟩

theorem shows_messageFor
    (sound : window.editor.Sound)
    {report : Report}
    (status : window.status = window.messageFor report.file? report.place)
    (fresh :
      report.returned = false → report.place = window.editor.place) :
    Shows (some report) window := by
  refine ⟨sound, nofun, ?_, ?_⟩
  · rintro _ ⟨⟩
    exact status
  · rintro _ ⟨⟩
    exact fresh

/-- Nothing counts but the status line, the cursor and the directory. -/
theorem Shows.of_same
    (shows : Shows report? window)
    {other : Window}
    (sound : other.editor.Sound)
    (place : other.editor.place = window.editor.place)
    (status : other.status = window.status)
    (directory : other.directory = window.directory) :
    Shows report? other where
  sound := sound
  hides := by
    rw [status]
    exact shows.hides
  tells report reported := by
    have same :
        other.messageFor report.file? report.place =
          window.messageFor report.file? report.place := by
      rw [messageFor, messageFor, shownPath, shownPath]
      unfold path
      rw [directory]
    rw [status, same]
    exact shows.tells report reported
  fresh report reported ended := by
    rw [place]
    exact shows.fresh report reported ended

/-- What is done in the editor is shown if it reports the cursor. -/
theorem Shows.follow
    (shows : Shows report? window)
    {outcome : Editor.Outcome}
    (sound : outcome.editor.Sound)
    {returned : Bool}
    (spared :
      outcome.reported? = none →
        outcome.editor.place = window.editor.place)
    (told :
      returned = false →
        ∀ place ∈ outcome.reported?, place = outcome.editor.place) :
    Shows
      ((outcome.reported?.map (⟨window.file?, ·, returned⟩)).or report?)
      (window.follow outcome) := by
  cases reported : outcome.reported? with
  | none =>
      rw [Window.follow, reported]
      exact shows.of_same sound (spared reported) rfl rfl
  | some place =>
      rw [Window.follow, reported]
      exact shows_messageFor sound rfl fun ended =>
        told ended place reported

/-- A command of the editor reports the cursor, and a step perhaps a way back. -/
theorem Shows.edit
    (shows : Shows report? window)
    (command : Editor.Command) :
    Shows
      (((window.editor.perform command).reported?.map
        (⟨window.file?, ·, window.editor.returns command⟩)).or report?)
      (window.follow (window.editor.perform command)) :=
  shows.follow (shows.sound.perform command)
    shows.sound.place_perform_of_unreported
    fun onwards => (shows.sound.reports_perform onwards).told

/-! ## Operations -/

theorem Shows.refuse
    (shows : Shows report? window)
    (file? : Option Text)
    (dialogs : List Dialog) :
    Outcome.Shows report? file? (window.refuse dialogs) :=
  shows

/-- The file that a window opens is not the one that is reported. -/
theorem Shows.load
    (shows : Shows report? window)
    (name : Text) :
    Outcome.Shows report? window.file? (window.load name) := by
  rcases window.load_cases name with ⟨same, failed⟩ | ⟨text, shown⟩
  · rw [Outcome.Shows, same, failed]
    exact shows
  · rw [shown]
    have sound :
        (window.editor.setMode
          ((window.registry.forPath? name).getD
            window.registry.default)).Sound :=
      shows.sound.of_same rfl rfl rfl rfl
    exact shows_messageFor (sound.setText text) rfl fun _ => rfl

theorem Shows.unlessKept
    (shows : Shows report? window)
    (reply : Reply)
    {file? : Option Text}
    {next : Window → Outcome}
    (shown : Outcome.Shows report? file? (next window)) :
    Outcome.Shows report? file? (window.unlessKept reply next) := by
  rw [Window.unlessKept]
  split
  · exact shown
  · split
    · exact shown
    · exact shows.refuse _ _

theorem Shows.new
    (shows : Shows report? window)
    (reply : Reply) :
    Outcome.Shows report? window.file? (window.new reply) := by
  apply shows.unlessKept
  have sound :
      ((window.editor.setText []).editor.setMode
        window.registry.default).Sound :=
    (shows.sound.setText []).of_same rfl rfl rfl rfl
  exact shows_messageFor sound rfl fun _ => rfl

theorem Shows.openPicked
    (shows : Shows report? window)
    (reply : Reply) :
    Outcome.Shows report? window.file? (window.openPicked reply) := by
  apply shows.unlessKept
  split
  · exact shows.refuse _ _
  · exact shows.load _

theorem Shows.write
    (shows : Shows report? window)
    (name : Text) :
    Shows report? (window.write name).window := by
  rw [Window.write]
  split
  · exact shows
  · exact shows
  · split
    · exact shows.of_same shows.sound rfl rfl rfl
    · exact shows.of_same (sound_markSaved shows.sound) rfl rfl rfl

/-- Another name for the document is not reported. -/
theorem Shows.saveAs
    (shows : Shows report? window)
    (reply : Reply) :
    Shows report? (window.saveAs reply).window := by
  rw [Window.saveAs]
  split
  · exact shows
  · rename_i name picked
    have written := shows.write name
    dsimp only [Outcome.after]
    split
    · exact written.of_same written.sound rfl rfl rfl
    · exact written

theorem Shows.save
    (shows : Shows report? window)
    (reply : Reply) :
    Shows report? (window.save reply).window := by
  rw [Window.save]
  split
  · exact shows.write _
  · exact shows.saveAs reply

theorem Shows.close
    (shows : Shows report? window)
    (reply : Reply) :
    Shows report? (window.close reply).window := by
  rw [Window.close, Window.unlessKept]
  split
  · exact shows
  · split <;> exact shows

/-! ## Actions -/

/-- After every action the status line tells what was reported last. -/
theorem Shows.perform
    (shows : Shows report? window)
    (action : Action) :
    Shows (window.nextReport? report? action)
      (window.perform action).window := by
  cases action with
  | load name => exact shows.load name
  | new reply => exact shows.new reply
  | openPicked reply => exact shows.openPicked reply
  | save reply => exact shows.save reply
  | saveAs reply => exact shows.saveAs reply
  | close reply => exact shows.close reply
  | chooseScheme scheme =>
      exact shows.of_same (shows.sound.of_same rfl rfl rfl rfl) rfl rfl rfl
  | chooseWidth width =>
      apply shows_of_ascii
      · exact shows.sound.of_same rfl rfl rfl rfl
      · exact Ascii.append (by decide) (ascii_ofInt width)
  | changeFont change =>
      cases change <;>
        exact shows.of_same (shows.sound.of_same rfl rfl rfl rfl) rfl rfl rfl
  | toggleWrap =>
      have place (wraps : Bool) :
          (window.editor.setWrapping wraps).place = window.editor.place := by
        rw [Editor.setWrapping]
        split <;> rfl
      exact shows.of_same (shows.sound.setWrapping _) (place _) rfl rfl
  | reindent =>
      -- The number of lines takes the place of a position, if one was reported.
      have reindented := shows.edit .reindentDocument
      apply shows_of_ascii
      · exact reindented.sound
      · exact ((Ascii.append (by decide) (digits_ofNat _).ascii).append
          (by decide))
  | toggleComment =>
      have toggled := shows.sound.reports_toggleComment
      exact shows.follow shows.sound.toggleComment toggled.spared
        fun _ => toggled.told
  | edit command => exact shows.edit command

theorem Shows.performAll
    (shows : Shows report? window)
    (actions : List Action) :
    Shows (window.lastReport? report? actions)
      (window.performAll actions).window := by
  induction actions generalizing window report? with
  | nil => exact shows
  | cons action actions induction =>
      rw [performAll_cons]
      exact induction (shows.perform action)

/-- A window opens with an empty status line. -/
theorem status_openOn
    {registry : Language.Registry}
    {files : Files}
    {directory : Text}
    (opened : openOn registry files directory = .ok window) :
    window.status = [] := by
  rw [openOn] at opened
  cases loaded :
      Preferences.load files settingsName (pathIn directory settingsName) with
  | error fault =>
      rw [loaded] at opened
      cases opened
  | ok result =>
      rw [loaded] at opened
      cases opened
      rfl

theorem shows_openOn
    {registry : Language.Registry}
    {files : Files}
    {directory : Text}
    (opened : openOn registry files directory = .ok window) :
    Shows none window := by
  apply shows_of_ascii (guards_openOn opened).sound
  rw [status_openOn opened]
  exact List.forall_mem_nil _

/-- The message is up to date exactly if its file and its place are. -/
theorem Shows.status_eq_positionReport_iff
    {report : Report}
    (shows : Shows (some report) window) :
    window.status = window.positionReport ↔
      window.shownPath report.file? = window.shownPath window.file? ∧
        report.place = window.editor.place := by
  rw [shows.tells report rfl, positionReport, placeReport_eq]
  exact messageFor_inj

/-- The positions that the status line tells. -/
theorem Shows.status_eq_positionMessage_iff
    (shows : Shows report? window)
    {path : Text}
    {line column : Nat} :
    window.status = positionMessage path line column ↔
      ∃ report ∈ report?,
        path = window.shownPath report.file? ∧
          line = report.place.line + 1 ∧
          column = report.place.column + 1 := by
  constructor
  · intro status
    cases reported : report? with
    | none => exact absurd status (shows.hides reported path line column)
    | some report =>
        have told := shows.tells report reported
        exact ⟨report, rfl, positionMessage_inj (status.symm.trans told)⟩
  · rintro ⟨report, reported, rfl, rfl, rfl⟩
    exact shows.tells report reported

end Shows

/--
Whatever is done to a window that has been opened.  A position that the status
line tells is that of the last report of the cursor, in the file that was
current then, and it is told unless something else has been since.  The place
is that of the cursor, unless the report is that of a step of the history that
left the cursor at its position.  The message is up to date exactly if that
file is shown like the current one and the place is that of the cursor.
-/
theorem reported_position_openOn
    {registry : Language.Registry}
    {files : Files}
    {directory : Text}
    {window : Window}
    (opened : openOn registry files directory = .ok window)
    (actions : List Action) :
    let last := (window.performAll actions).window
    let report? := window.lastReport? none actions
    (∀ path line column,
        last.status = positionMessage path line column ↔
          ∃ report ∈ report?,
            path = last.shownPath report.file? ∧
              line = report.place.line + 1 ∧
              column = report.place.column + 1) ∧
      ∀ report ∈ report?,
        (report.returned = false → report.place = last.editor.place) ∧
          (last.status = last.positionReport ↔
            last.shownPath report.file? = last.shownPath last.file? ∧
              report.place = last.editor.place) := by
  have shows := (shows_openOn opened).performAll actions
  refine ⟨fun _ _ _ => shows.status_eq_positionMessage_iff, ?_⟩
  intro report reported
  refine ⟨shows.fresh report reported, ?_⟩
  rw [reported] at shows
  exact shows.status_eq_positionReport_iff

/--
A file that is opened, changed and saved under another name.  The status line
has the column of the cursor and the first name.
-/
theorem reported_position_sample :
    let first := Text.ofString "a.scl"
    let second := Text.ofString "b.scl"
    let files : Files := ⟨[([first], .file [0x70])]⟩
    let actions : List Action :=
      [.load first, .edit (.type (Text.ofString "q") false),
        .saveAs ⟨true, some second⟩]
    ∃ window,
      openOn .start files [] = .ok window ∧
        let last := (window.performAll actions).window
        last.file? = some second ∧
          last.status = positionMessage (last.path first) 1 2 ∧
          last.status ≠ last.positionReport := by
  intro first second files actions
  obtain ⟨window, opened, reported, file, different⟩ :
      ∃ window,
        openOn .start files [] = .ok window ∧
          window.lastReport? none actions =
              some ⟨some first, ⟨0, 1⟩, false⟩ ∧
          let last := (window.performAll actions).window
          last.file? = some second ∧ last.path first ≠ last.path second :=
    ⟨_, rfl, by decide +kernel, by decide +kernel, by decide +kernel⟩
  rcases reported_position_openOn opened actions with ⟨told, current⟩
  refine ⟨window, opened, file, ?_, ?_⟩
  · exact (told _ _ _).mpr ⟨_, reported, rfl, rfl, rfl⟩
  · intro same
    have alike := ((current _ reported).2.mp same).1
    rw [file] at alike
    exact different alike

/--
A character is removed, the cursor goes one position further, and the removal
is taken back.  The cursor is where it was, and the status line has the column
up to which the changes have moved it in between.
-/
example :
    let actions : List Action :=
      [.edit (.setText (Text.ofString "abcd")), .edit (.select 1 1),
        .edit (.press .delete), .edit (.select 2 2), .edit .undo]
    (openOn .start ⟨[]⟩ []).toOption.map
        (fun window =>
          let last := (window.performAll actions).window
          (last.status, last.editor.place)) =
      some (positionMessage (Text.ofString "Untitled") 1 4, ⟨0, 2⟩) := by
  decide +kernel

/--
The status line of a window in which a file has just been opened says that the
cursor is in no file.
-/
theorem reported_position_stale :
    let name := Text.ofString "a.scl"
    let files : Files := ⟨[([name], .file [0x62])]⟩
    ∃ window,
      openOn .start files [] = .ok window ∧
        let last := (window.performAll [.load name]).window
        last.file? = some name ∧
          last.status = positionMessage (Text.ofString "Untitled") 1 1 ∧
          last.shownPath last.file? ≠ Text.ofString "Untitled" :=
  ⟨_, rfl, by decide +kernel, by decide +kernel, by decide +kernel⟩

end Window

end ClauseEditor
