import ClauseEditor.Proofs.Json.Parsing
import ClauseEditor.Proofs.Preferences.Merging
import ClauseEditor.Proofs.Preferences.Saved

/-!
# What becomes of a settings file

A settings file is bytes.  If they are UTF-8, the text decides: an object is
merged with the defaults, and a text that is none means the defaults.  Bytes
that are not UTF-8 are the one kind of file that is not loaded, although no
other damage stops the reading.
-/

namespace ClauseEditor.Preferences

open Json
open Storage

section Loading

variable
    {files : Files}
    {name path text : Text}
    {bytes : List UInt8}
    {preferences : Preferences}

/-! ## The text -/

/-- A text that is no object means the defaults. -/
theorem ofText_of_forall_not
    (noObject : ∀ given, ¬ DenotesObject text given)
    (path : Text) :
    (ofText path text).1.members = defaults := by
  rw [ofText]
  split
  · rfl
  · rename_i members read
    rcases read?_eq_object_iff.mp read with ⟨given, denotes, _⟩
    exact absurd denotes (noObject given)
  · rfl

theorem ofText_of_denotesObject
    {given : Members}
    (denotes : DenotesObject text given)
    (path : Text) :
    (ofText path text).1 = (ofMembers (Members.ofList given)).1 := by
  rw [ofText, read?_eq_object_iff.mpr ⟨given, denotes, rfl⟩]

/-! ## The bytes -/

theorem load_of_decode
    (found : files.read name = .ok bytes)
    (decoded : Utf8.decode bytes = .ok text)
    (path : Text) :
    load files name path = .ok (ofText path text.withLineFeeds) := by
  rw [load, found]
  change (do
    let text ← Utf8.decode bytes
    return ofText path text.withLineFeeds) = _
  rw [decoded]
  rfl

theorem load_of_fault
    {fault : Utf8.Fault}
    (found : files.read name = .ok bytes)
    (broken : Utf8.decode bytes = .error fault)
    (path : Text) :
    load files name path = .error fault := by
  rw [load, found]
  change (do
    let text ← Utf8.decode bytes
    return ofText path text.withLineFeeds) = _
  rw [broken]
  rfl

/-- A path that leads to no file at all means the defaults. -/
theorem exists_load_of_error
    {obstacle : Obstacle}
    (missing : files.read name = .error obstacle)
    (path : Text) :
    ∃ notices, load files name path = .ok (⟨defaults⟩, notices) := by
  rw [load, missing]
  cases obstacle with
  | noName fault => exact ⟨_, rfl⟩
  | refused error => cases error <;> exact ⟨_, rfl⟩

/-- Valid preferences have a permitted value for every known key. -/
theorem Valid.permits
    (valid : Valid preferences)
    {key : Text}
    (known : key ∈ Members.keys defaults) :
    ∃ value, preferences.members.find? key = some value ∧ Permits key value := by
  rcases exists_check_of_mem known with ⟨isValid, listed⟩
  have present := valid.isSome_find? (List.mem_map_of_mem listed)
  rcases Option.isSome_iff_exists.mp present with ⟨value, found⟩
  have passes := valid _ listed
  dsimp only at passes
  rw [get, found, Option.getD_some] at passes
  exact ⟨value, found, (isValid_iff listed).mp passes⟩

end Loading

/-! ## Main results -/

/--
Preferences with a permitted value for every known key are loaded, whatever
stands at the path of the settings file, unless it is a file whose bytes are
not UTF-8; the fault in these bytes is then all that comes of the loading.
-/
theorem load_unless_broken (files : Files) (name path : Text) :
    ((∃ preferences notices,
          load files name path = .ok (preferences, notices) ∧
            ∀ key ∈ Members.keys defaults,
              ∃ value,
                preferences.members.find? key = some value ∧
                  Permits key value) ↔
        ∀ bytes,
          files.read name = .ok bytes →
            ∃ text, Utf8.encode text = .ok bytes) ∧
      ∀ bytes fault,
        files.read name = .ok bytes →
          Utf8.decode bytes = .error fault →
            load files name path = .error fault := by
  have sound
      {preferences : Preferences}
      {notices : List Notice}
      (loaded : load files name path = .ok (preferences, notices)) :
      ∃ preferences notices,
        load files name path = .ok (preferences, notices) ∧
          ∀ key ∈ Members.keys defaults,
            ∃ value,
              preferences.members.find? key = some value ∧
                Permits key value :=
    ⟨preferences, notices, loaded, fun _ known =>
      (sound_of_load loaded).1.permits known⟩
  refine ⟨⟨?_, ?_⟩, ?_⟩
  · rintro ⟨preferences, notices, loaded, _⟩ bytes found
    cases decoded : Utf8.decode bytes with
    | error fault =>
        rw [load_of_fault found decoded] at loaded
        cases loaded
    | ok text => exact ⟨text, Utf8.decode_eq_ok_iff.mp decoded⟩
  · intro isText
    cases found : files.read name with
    | error error =>
        rcases exists_load_of_error found path with ⟨notices, loaded⟩
        exact sound loaded
    | ok bytes =>
        rcases isText bytes found with ⟨text, encoded⟩
        have decoded := Utf8.decode_eq_ok_iff.mpr encoded
        exact sound (load_of_decode found decoded path)
  · intro bytes fault found broken
    exact load_of_fault found broken path

/-- One byte that starts no sequence stops the loading. -/
theorem load_broken_file :
    load ⟨[([Text.ofString "settings.json"], .file [0xFF])]⟩
          (Text.ofString "settings.json") [] =
        .error ⟨0xFF, 0, 1, .invalidStart⟩ ∧
      ¬ ∃ preferences,
        load ⟨[([Text.ofString "settings.json"], .file [0xFF])]⟩
          (Text.ofString "settings.json") [] = .ok preferences :=
  ⟨rfl, nofun⟩

/--
What is loaded from a file that is UTF-8.  Its text has its line ends as line
feeds; if it is no object, the defaults are loaded, and an object is merged
with them.
-/
theorem load_merged
    {files : Files}
    {name text : Text}
    {bytes : List UInt8}
    (found : files.read name = .ok bytes)
    (decoded : Utf8.decode bytes = .ok text)
    (path : Text) :
    ∃ preferences notices,
      load files name path = .ok (preferences, notices) ∧
        ((∀ given, ¬ DenotesObject text.withLineFeeds given) →
          preferences.members = defaults) ∧
        ∀ given,
          DenotesObject text.withLineFeeds given →
            Merges given preferences.members := by
  refine ⟨(ofText path text.withLineFeeds).1,
    (ofText path text.withLineFeeds).2, load_of_decode found decoded path, ?_,
    ?_⟩
  · intro noObject
    exact ofText_of_forall_not noObject path
  · intro given denotes
    rw [ofText_of_denotesObject denotes]
    exact merges_ofMembers given

/--
A size that is given twice, an unknown scheme between two lines and a key that
is not known: the second size counts, the scheme is the default, and the keys
that are missing come last.
-/
theorem load_merged_sample :
    let text :=
      Text.ofString ("\x7b\"font_size\": 9, \"recent\": null,\r\n" ++
        "\"theme\": \"blue\", \"font_size\": 14\x7d\n")
    let bytes := text.flatMap Utf8.encodeOne
    let files : Files := ⟨[([Text.ofString "settings.json"], .file bytes)]⟩
    files.read (Text.ofString "settings.json") = .ok bytes ∧
      Utf8.decode bytes = .ok text ∧
      ∃ preferences notices,
        load files (Text.ofString "settings.json") [] =
            .ok (preferences, notices) ∧
          Members.keys preferences.members =
            [fontSizeKey, Text.ofString "recent", schemeKey, wordWrapKey,
              indentWidthKey] ∧
          preferences.members.find? fontSizeKey = some (.integer 14) ∧
          preferences.members.find? (Text.ofString "recent") = some .null ∧
          preferences.members.find? schemeKey =
            some (.string (Text.ofString "dark")) := by
  intro text bytes files
  have found : files.read (Text.ofString "settings.json") = .ok bytes := by
    decide +kernel
  have decoded : Utf8.decode bytes = .ok text := by
    decide +kernel
  let given : Members :=
    [(fontSizeKey, .integer 9), (Text.ofString "recent", .null),
      (schemeKey, .string (Text.ofString "blue")), (fontSizeKey, .integer 14)]
  let opened :=
    Text.ofString ("\"font_size\": 9, \"recent\": null,\n" ++
      "\"theme\": \"blue\", \"font_size\": 14\x7d\n")
  have lineFeeds : text.withLineFeeds = Text.ofString "\x7b" ++ opened := by
    decide +kernel
  have read : readMembers? 20 opened = some (given, Text.ofString "\n") := by
    dsimp only [opened]
    cbv
  have denotes : DenotesObject text.withLineFeeds given := by
    rcases (readsGrammar 20).members read with ⟨front, shape, areMembers, _⟩
    refine ⟨[], front, Text.ofString "\n", blank_nil, areMembers, by decide, ?_⟩
    rw [lineFeeds, shape, List.append_assoc, List.append_assoc]
    rfl
  rcases load_merged found decoded [] with
    ⟨preferences, notices, loaded, _, merged⟩
  have merges := merged given denotes
  refine ⟨found, decoded, preferences, notices, loaded, ?_, ?_, ?_, ?_⟩
  · rw [merges.keys]
    decide
  · exact merges.kept _ _ rfl fun _ => .fontSize (by decide)
  · refine merges.kept _ _ rfl fun known => ?_
    exact absurd known (by decide)
  · apply merges.standard _ _ (.head _)
    intro value isLast permits
    cases isLast
    exact absurd ((isValid_iff (.head _)).mpr permits) (by decide)

end ClauseEditor.Preferences
