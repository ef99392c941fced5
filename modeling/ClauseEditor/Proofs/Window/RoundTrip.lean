import ClauseEditor.Proofs.Document.PlainText
import ClauseEditor.Proofs.Storage.Files
import ClauseEditor.Proofs.Text.Newline
import ClauseEditor.Window.Documents

/-!
# Opening a file and saving it at once

A file whose bytes are UTF-8 can be opened and then saved, and no other file
is touched.  What the file holds afterwards is not always what it held before.
Reading makes a line feed of each line end, and the document makes something
else of the characters that `plainCharacter` names.  The bytes are the same
exactly if the text holds none of these characters.
-/

namespace ClauseEditor.Window

open Document
open Storage

/-! ## Characters -/

/-- The text that is saved when a text has been opened. -/
def savedText (text : Text) : Text :=
  text.withLineFeeds.map plainCharacter

/--
The characters that are lost: the carriage return, the no-break space, the
separators of lines and paragraphs, and two noncharacters.
-/
def lostCharacters : List Nat :=
  [0x0D, 0xA0, 0x2028, 0x2029, 0xFDD0, 0xFDD1]

theorem plainCharacter_of_notMem
    {c : CodePoint}
    (kept : c.val ∉ lostCharacters) :
    plainCharacter c = c := by
  simp only [lostCharacters, List.mem_cons, List.not_mem_nil, or_false,
    not_or] at kept
  rw [plainCharacter, if_neg (by omega), if_neg (by omega)]

/-- A document gives back no lost character, if it is given no carriage return. -/
theorem plainCharacter_notMem
    {c : CodePoint}
    (noReturn : c ≠ .ofChar '\r') :
    (plainCharacter c).val ∉ lostCharacters := by
  have value : c.val ≠ 0x0D := fun same => noReturn (CodePoint.ext same)
  rw [plainCharacter]
  split
  · decide
  · split
    · decide
    · simp only [lostCharacters, List.mem_cons, List.not_mem_nil, or_false]
      omega

theorem notMem_of_mem_savedText
    {text : Text}
    {c : CodePoint}
    (member : c ∈ savedText text) :
    c.val ∉ lostCharacters := by
  rcases List.mem_map.mp member with ⟨opened, inside, rfl⟩
  apply plainCharacter_notMem
  rintro rfl
  exact Text.notMem_withLineFeeds text inside

/-- A text is saved as it was opened if it holds no lost character. -/
theorem savedText_eq_self_iff {text : Text} :
    savedText text = text ↔ ∀ c ∈ text, c.val ∉ lostCharacters := by
  constructor
  · intro same c member
    rw [← same] at member
    exact notMem_of_mem_savedText member
  · intro kept
    have noReturn : CodePoint.ofChar '\r' ∉ text :=
      fun member => kept _ member (by decide)
    rw [savedText, Text.withLineFeeds_of_notMem noReturn]
    exact (List.map_congr_left fun c member =>
      plainCharacter_of_notMem (kept c member)).trans (List.map_id' text)

/-- What has been saved once is lost no more. -/
theorem savedText_savedText (text : Text) :
    savedText (savedText text) = savedText text :=
  savedText_eq_self_iff.mpr fun _ => notMem_of_mem_savedText

/-! ## Files -/

section Files

variable {window : Window} {name text : Text} {bytes : List UInt8}

/-- Opening a file leaves the files alone and shows the text of this one. -/
theorem load_of_decode
    (read : window.files.read name = .ok bytes)
    (decoded : Utf8.decode bytes = .ok text) :
    (window.load name).done = true ∧
      (window.load name).window.files = window.files ∧
      (window.load name).window.file? = some name ∧
      (window.load name).window.editor.text =
        plainText (contentOf text.withLineFeeds) := by
  rw [load, read]
  dsimp only
  rw [decoded]
  exact ⟨rfl, rfl, rfl, rfl⟩

/-- Saving gives the current file the bytes of what is shown. -/
theorem save_of_encode
    (current : window.file? = some name)
    {path : List Text}
    (writable : window.files.writable name = .ok path)
    (encoded : Utf8.encode window.editor.text = .ok bytes)
    (reply : Reply) :
    (window.save reply).done = true ∧
      (window.save reply).window.files =
        window.files.set path (some (.file bytes)) := by
  rw [save, current]
  dsimp only
  rw [write, writable]
  dsimp only
  rw [encoded]
  exact ⟨rfl, rfl⟩

end Files

/--
What a file holds when it has been opened and saved, and when these are the
bytes that it held before.
-/
theorem save_load
    {window : Window}
    {name : Text}
    {bytes : List UInt8}
    {text : Text}
    (read : window.files.read name = .ok bytes)
    (decoded : Utf8.decode bytes = .ok text)
    (reply : Reply) :
    (window.load name).done = true ∧
      ((window.load name).window.save reply).done = true ∧
      ∃ saved,
        ((window.load name).window.save reply).window.files.read name =
            .ok saved ∧
          Utf8.decode saved = .ok (savedText text) ∧
          (saved = bytes ↔ ∀ c ∈ text, c.val ∉ lostCharacters) ∧
          ∀ other,
            window.files.locate other ≠ window.files.locate name →
              ((window.load name).window.save reply).window.files.read other =
                window.files.read other := by
  have opened : Utf8.encode text = .ok bytes :=
    Utf8.decode_eq_ok_iff.mp decoded
  have scalar : Utf8.IsScalar text.withLineFeeds :=
    Text.isScalar_withLineFeeds (Utf8.isScalar_of_encode opened)
  have encoded : Utf8.encode (savedText text) = .ok _ :=
    Utf8.encode_of_isScalar (isScalar_map_plainCharacter scalar)
  rcases load_of_decode read decoded with ⟨loaded, files, current, shown⟩
  rcases Files.exists_of_read read with ⟨path, writable, leads, present⟩
  rw [plainText_contentOf scalar (Text.notMem_withLineFeeds text)] at shown
  rw [← files] at writable
  rcases save_of_encode current writable
      ((congrArg Utf8.encode shown).trans encoded) reply
    with ⟨saved, after⟩
  rw [after, files]
  refine ⟨loaded, saved, _, Files.read_set leads present _, ?_, ?_, ?_⟩
  · exact Utf8.decode_eq_ok_iff.mpr encoded
  · rw [Utf8.bytes_eq_iff encoded opened]
    exact savedText_eq_self_iff
  · intro other elsewhere
    rw [leads] at elsewhere
    exact Files.read_set_of_ne present elsewhere _

/-- A text in which no character is lost, beside a file that is not opened. -/
theorem save_load_sample :
    ∃ window,
      openOn .start
            ⟨[([Text.ofString "b.scl"], .file [0x0D]),
              ([Text.ofString "a.scl"], .file [0x61, 0x0A, 0xC3, 0xA9])]⟩ [] =
          .ok window ∧
        window.files.read (Text.ofString "a.scl") =
          .ok [0x61, 0x0A, 0xC3, 0xA9] ∧
        Utf8.decode [0x61, 0x0A, 0xC3, 0xA9] =
          .ok (Text.ofString "a\n\u00e9") ∧
        ((window.load (Text.ofString "a.scl")).window.save
              ⟨false, none⟩).window.files.read (Text.ofString "a.scl") =
          .ok [0x61, 0x0A, 0xC3, 0xA9] ∧
        ((window.load (Text.ofString "a.scl")).window.save
              ⟨false, none⟩).window.files.read (Text.ofString "b.scl") =
          .ok [0x0D] := by
  let files : Files :=
    ⟨[([Text.ofString "b.scl"], .file [0x0D]),
      ([Text.ofString "a.scl"], .file [0x61, 0x0A, 0xC3, 0xA9])]⟩
  obtain ⟨window, opened, files_eq⟩ :
      ∃ window, openOn .start files [] = .ok window ∧ window.files = files :=
    ⟨_, rfl, rfl⟩
  have read :
      window.files.read (Text.ofString "a.scl") =
        .ok [0x61, 0x0A, 0xC3, 0xA9] := by
    rw [files_eq]
    decide +kernel
  have decoded :
      Utf8.decode [0x61, 0x0A, 0xC3, 0xA9] =
        .ok (Text.ofString "a\n\u00e9") := by
    decide +kernel
  have kept :
      ∀ c ∈ Text.ofString "a\n\u00e9", c.val ∉ lostCharacters := by
    decide
  have elsewhere :
      window.files.locate (Text.ofString "b.scl") ≠
        window.files.locate (Text.ofString "a.scl") := by
    rw [files_eq]
    decide +kernel
  have untouched :
      window.files.read (Text.ofString "b.scl") = .ok [0x0D] := by
    rw [files_eq]
    decide +kernel
  rcases save_load read decoded ⟨false, none⟩
    with ⟨_, _, saved, after, _, same, others⟩
  rw [same.mpr kept] at after
  exact ⟨window, opened, read, decoded, after,
    (others _ elsewhere).trans untouched⟩

/-- A carriage return and a no-break space do not come back. -/
theorem save_load_lossy :
    ∃ window,
      openOn .start
            ⟨[([Text.ofString "a.scl"],
              .file [0x61, 0x0D, 0x0A, 0x62, 0xC2, 0xA0, 0x63])]⟩ [] =
          .ok window ∧
        window.files.read (Text.ofString "a.scl") =
          .ok [0x61, 0x0D, 0x0A, 0x62, 0xC2, 0xA0, 0x63] ∧
        Utf8.decode [0x61, 0x0D, 0x0A, 0x62, 0xC2, 0xA0, 0x63] =
          .ok (Text.ofString "a\r\nb\u00a0c") ∧
        ((window.load (Text.ofString "a.scl")).window.save
              ⟨false, none⟩).window.files.read (Text.ofString "a.scl") =
          .ok [0x61, 0x0A, 0x62, 0x20, 0x63] ∧
        ((window.load (Text.ofString "a.scl")).window.save
              ⟨false, none⟩).window.files.read (Text.ofString "a.scl") ≠
          window.files.read (Text.ofString "a.scl") :=
  ⟨_, rfl, by decide +kernel, by decide +kernel, by decide +kernel,
    by decide +kernel⟩

end ClauseEditor.Window
