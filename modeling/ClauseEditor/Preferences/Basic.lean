import ClauseEditor.Json.Displayed
import ClauseEditor.Palette

/-!
# Preferences

The preferences are the members of a JSON object.  Four of them mean
something to the editor and always have a value of the right kind; all others
are kept as they are.  A value that does not fit is replaced by its default,
and all but an unknown colour scheme are reported.
-/

namespace ClauseEditor

/-- The members of the settings object, in the order of the file. -/
structure Preferences where
  members : Json.Members

namespace Preferences

open Json

def schemeKey : Text := Text.ofString "theme"
def fontSizeKey : Text := Text.ofString "font_size"
def wordWrapKey : Text := Text.ofString "word_wrap"
def indentWidthKey : Text := Text.ofString "indent_width"

/-- The values of the four known keys where the file has none. -/
def defaults : Members :=
  [(schemeKey, .string ColourScheme.dark.name),
    (fontSizeKey, .integer 13),
    (wordWrapKey, .bool true),
    (indentWidthKey, .integer 2)]

/-- The value of a key; null if it has none. -/
def get (preferences : Preferences) (key : Text) : Json :=
  (preferences.members.find? key).getD .null

/-- The default of a key. -/
def default (key : Text) : Json :=
  (Members.find? defaults key).getD .null

def set (preferences : Preferences) (key : Text) (value : Json) : Preferences :=
  ⟨preferences.members.insert key value⟩

/-! ## Valid values -/

/-- The name of a colour scheme. -/
def isSchemeName : Json → Bool
  | .string name => (ColourScheme.ofName? name).isSome
  | _ => false

/-- A positive integer; a truth value is none. -/
def isSize : Json → Bool
  | .integer value => 0 < value
  | _ => false

def isTruthValue : Json → Bool
  | .bool _ => true
  | _ => false

/-- A value that was replaced. -/
structure Replacement where
  key : Text
  value : Json

/-- The report of a replacement. -/
def Replacement.message (replacement : Replacement) : Text :=
  Text.ofString "Invalid setting " ++ replacement.key ++ Text.ofString "=" ++
    replacement.value.displayed ++ Text.ofString ", using " ++
    (default replacement.key).displayed

/-- Replaces the value of a key by its default unless it is valid. -/
def check
    (key : Text)
    (isValid : Json → Bool)
    (preferences : Preferences) :
    Preferences × List Replacement :=
  let value := preferences.get key
  if isValid value then (preferences, [])
  else (preferences.set key (default key), [⟨key, value⟩])

/-- Gives the known keys that are missing their defaults, after all others. -/
def completed (members : Members) : Preferences :=
  ⟨defaults.foldl
    (fun members known =>
      if (members.find? known.1).isSome then members
      else members ++ [known])
    members⟩

/-- The preferences of a settings object, and the values that were replaced. -/
def ofMembers (members : Members) : Preferences × List Replacement :=
  let (preferences, _) := check schemeKey isSchemeName (completed members)
  let (preferences, first) := check fontSizeKey isSize preferences
  let (preferences, second) := check indentWidthKey isSize preferences
  let (preferences, third) := check wordWrapKey isTruthValue preferences
  (preferences, first ++ second ++ third)

/-! ## The known keys -/

def palette (preferences : Preferences) : Palette :=
  match preferences.get schemeKey with
  | .string name => .named name
  | _ => .dark

def scheme? (preferences : Preferences) : Option ColourScheme :=
  match preferences.get schemeKey with
  | .string name => ColourScheme.ofName? name
  | _ => none

def fontSize (preferences : Preferences) : Int :=
  match preferences.get fontSizeKey with
  | .integer size => size
  | _ => 13

def wordWrap (preferences : Preferences) : Bool :=
  match preferences.get wordWrapKey with
  | .bool value => value
  | _ => true

def indentWidth (preferences : Preferences) : Int :=
  match preferences.get indentWidthKey with
  | .integer width => width
  | _ => 2

end Preferences

end ClauseEditor
