import ClauseEditor.Preferences.Saved
import ClauseEditor.Proofs.Json.Ascii
import ClauseEditor.Proofs.Json.Reading
import ClauseEditor.Proofs.Preferences.Validity
import ClauseEditor.Proofs.Storage.Writing
import ClauseEditor.Proofs.Text.Newline

/-!
# Saved preferences are loaded back

The text of a settings object is ASCII, so it can always be encoded, and
neither the encoding nor the line ends change it.  What was saved is therefore
loaded as it was, with its keys in their order, and nothing is reported.

Preferences that were loaded are again preferences of this kind, whatever the
settings file holds.
-/

namespace ClauseEditor.Preferences

open Json
open Storage

/-! ## The file -/

/-- A file holds a JSON object with these members. -/
def Holds (files : Files) (name : Text) (members : Members) : Prop :=
  ∃ bytes text,
    files.read name = .ok bytes ∧ Utf8.decode bytes = .ok text ∧
      read? text.withLineFeeds = some (.object members)

section Files

variable
    {files written : Files}
    {name path : Text}
    {preferences : Preferences}
    {members : Members}
    {notices : List Notice}

theorem load_of_holds
    (holds : Holds files name members)
    (path : Text) :
    load files name path =
      .ok ((ofMembers members).1,
        (ofMembers members).2.map Notice.replaced) := by
  rcases holds with ⟨bytes, text, found, decoded, read⟩
  rw [load, found]
  change (do
    let text ← Utf8.decode bytes
    return ofText path text.withLineFeeds) = _
  rw [decoded]
  change Except.ok (ofText path text.withLineFeeds) = _
  rw [ofText, read]

theorem exists_of_save
    (saved : save files name preferences.toJson = .ok written) :
    ∃ location,
      files.writable name = .ok location ∧
        written =
          files.set location (some (.file
            ((Preferences.written preferences.toJson).flatMap
              Utf8.encodeOne))) := by
  rw [save, Files.write] at saved
  cases writable : files.writable name with
  | error error =>
      rw [writable] at saved
      cases saved
  | ok location =>
      rw [writable] at saved
      cases saved
      exact ⟨location, rfl, rfl⟩

theorem save_of_isOk_writable
    (isOk : (files.writable name).isOk = true)
    (value : Json) :
    ∃ written, save files name value = .ok written := by
  rw [save, Files.write]
  cases writable : files.writable name with
  | error error =>
      rw [writable] at isOk
      cases isOk
  | ok location => exact ⟨_, rfl⟩

/-- A settings object that was saved is what the file holds. -/
theorem holds_of_save
    (wellFormed : WellFormed preferences.toJson)
    (saved : save files name preferences.toJson = .ok written) :
    Holds written name preferences.members := by
  have ascii := ascii_render (.indented 2 0) preferences.toJson
  have encoded := Utf8.encode_of_isScalar ascii.isScalar
  rcases exists_of_save saved with ⟨location, writable, rfl⟩
  refine ⟨_, _, Files.read_set_self writable _,
    Utf8.decode_eq_ok_iff.mpr encoded, ?_⟩
  rw [Text.withLineFeeds_of_notMem ascii.notMem_carriageReturn]
  exact read?_render wellFormed _

/-- Valid preferences that were saved are loaded as they were. -/
theorem load_of_save
    (valid : Valid preferences)
    (wellFormed : WellFormed preferences.toJson)
    (saved : save files name preferences.toJson = .ok written)
    (path : Text) :
    load written name path = .ok (preferences, []) := by
  rw [load_of_holds (holds_of_save wellFormed saved), ofMembers_of_valid valid]
  rfl

/-! ## Whatever the file is -/

theorem wellFormed_of_holds
    (holds : Holds files name members) :
    WellFormed (.object members) := by
  rcases holds with ⟨bytes, text, _, decoded, read⟩
  have scalar := Utf8.isScalar_of_encode (Utf8.decode_eq_ok_iff.mp decoded)
  exact wellFormed_of_read? (Text.isScalar_withLineFeeds scalar) read

/-- The preferences are the defaults, or those of the object in the file. -/
theorem load_cases
    (loaded : load files name path = .ok (preferences, notices)) :
    preferences = ⟨defaults⟩ ∨
      ∃ members,
        Holds files name members ∧ preferences = (ofMembers members).1 := by
  rw [load] at loaded
  split at loaded
  · cases loaded
    exact Or.inl rfl
  · cases loaded
    exact Or.inl rfl
  · rename_i bytes found
    cases decoded : Utf8.decode bytes with
    | error fault =>
        rw [decoded] at loaded
        cases loaded
    | ok text =>
        rw [decoded] at loaded
        have same := Except.ok.inj loaded
        rw [ofText] at same
        split at same
        · cases same
          exact Or.inl rfl
        · rename_i members read
          refine Or.inr ⟨members, ⟨bytes, text, found, decoded, read⟩, ?_⟩
          generalize ofMembers members = result at same ⊢
          cases same
          rfl
        · cases same
          exact Or.inl rfl

/-- Whatever a file holds, the preferences that are loaded are fit to be saved. -/
theorem sound_of_load
    (loaded : load files name path = .ok (preferences, notices)) :
    Valid preferences ∧ WellFormed preferences.toJson := by
  rcases load_cases loaded with standard | ⟨members, holds, same⟩
  · rw [standard]
    exact ⟨valid_defaults, wellFormed_defaults⟩
  · rw [same, toJson]
    exact ⟨valid_ofMembers members,
      wellFormed_ofMembers (wellFormed_of_holds holds)⟩

end Files

/-! ## The round trip -/

/-- A value of a known key, given as what it means. -/
theorem valid_of_values
    {preferences : Preferences}
    {scheme : ColourScheme}
    {fontSize indentWidth : Int}
    {wordWrap : Bool}
    (schemeValue : preferences.get schemeKey = .string scheme.name)
    (fontSizeValue : preferences.get fontSizeKey = .integer fontSize)
    (fontSizePositive : 0 < fontSize)
    (indentWidthValue : preferences.get indentWidthKey = .integer indentWidth)
    (indentWidthPositive : 0 < indentWidth)
    (wordWrapValue : preferences.get wordWrapKey = .bool wordWrap) :
    Valid preferences := by
  simp only [Valid, checks, List.forall_mem_cons, schemeValue, fontSizeValue,
    indentWidthValue, wordWrapValue]
  exact ⟨isSchemeName_name scheme, isSize_of_pos fontSizePositive,
    isSize_of_pos indentWidthPositive, rfl, List.forall_mem_nil _⟩

/--
Preferences with a value of the right kind for each known key are loaded as
they were saved, with all other members in their places, and without a notice.
-/
theorem load_saved
    {members : Members}
    {scheme : ColourScheme}
    {fontSize indentWidth : Int}
    {wordWrap : Bool}
    (wellFormed : WellFormed (.object members))
    (schemeValue : members.find? schemeKey = some (.string scheme.name))
    (fontSizeValue : members.find? fontSizeKey = some (.integer fontSize))
    (fontSizePositive : 0 < fontSize)
    (indentWidthValue :
      members.find? indentWidthKey = some (.integer indentWidth))
    (indentWidthPositive : 0 < indentWidth)
    (wordWrapValue : members.find? wordWrapKey = some (.bool wordWrap))
    {files written : Files}
    {name : Text}
    (saved : save files name (.object members) = .ok written)
    (path : Text) :
    load written name path = .ok (⟨members⟩, []) := by
  have value {key : Text} {given : Json}
      (found : members.find? key = some given) :
      Preferences.get ⟨members⟩ key = given := by
    rw [get, found, Option.getD_some]
  have valid : Valid ⟨members⟩ :=
    valid_of_values (value schemeValue) (value fontSizeValue) fontSizePositive
      (value indentWidthValue) indentWidthPositive (value wordWrapValue)
  exact load_of_save valid wellFormed saved path

/--
Two keys that are not known: half of a surrogate pair beside characters that
are written as escapes, and a value inside another.
-/
theorem load_saved_sample :
    let members : Members :=
      [(fontSizeKey, .integer 14),
        (Text.ofString "\u00e9", .string ([⟨0xD800, by decide⟩] ++ Text.ofString "\r\"")),
        (wordWrapKey, .bool false),
        (Text.ofString "recent", .array [.null, .object [([], .integer (-3))]]),
        (indentWidthKey, .integer 4),
        (schemeKey, .string (Text.ofString "light"))]
    ∃ written,
      save .empty (Text.ofString "settings.json") (.object members) =
          .ok written ∧
        load written (Text.ofString "settings.json") [] =
          .ok (⟨members⟩, []) := by
  intro members
  have inner : WellFormed (.object [([], .integer (-3))]) := by
    refine .object (by decide) (by decide) ?_
    exact List.forall_mem_cons.mpr ⟨.integer _, List.forall_mem_nil _⟩
  have wellFormed : WellFormed (.object members) := by
    refine .object (by decide) (by decide) ?_
    simp only [members, List.forall_mem_cons]
    refine ⟨.integer _, .string (by decide), .bool _, .array ?_, .integer _,
      .string (by decide), List.forall_mem_nil _⟩
    exact List.forall_mem_cons.mpr
      ⟨.null, List.forall_mem_cons.mpr ⟨inner, List.forall_mem_nil _⟩⟩
  have saved :
      save .empty (Text.ofString "settings.json") (.object members) =
        .ok _ := rfl
  have schemeValue :
      members.find? schemeKey = some (.string ColourScheme.light.name) := rfl
  refine ⟨_, saved, ?_⟩
  exact load_saved wellFormed schemeValue rfl (by decide) rfl (by decide) rfl
    saved []

end ClauseEditor.Preferences
