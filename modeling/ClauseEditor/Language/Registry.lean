import ClauseEditor.Language.FileName
import ClauseEditor.Language.Glob
import ClauseEditor.Scallop.Vocabulary
import ClauseEditor.Text.LowerCase

/-!
# Registered languages

The registry holds the languages that a file can be edited as, in the order
in which their names were first registered.  Registering a name again
replaces its language in place.  A file belongs to the first language one of
whose patterns matches its name, without regard to case.
-/

namespace ClauseEditor.Language

/-- What the editor knows of a language. -/
structure Mode where
  name : Text
  patterns : List Text
  lineComment : Text
  indentUnit : Int
deriving DecidableEq

/-- The language that the editor is made for. -/
def Mode.scallop : Mode where
  name := Scallop.languageName
  patterns := Scallop.filePatterns
  lineComment := Scallop.lineComment
  indentUnit := 2

/-- Whether a file with that name, given in lower case, is in the language. -/
def Mode.claims (mode : Mode) (name : Text) : Bool :=
  mode.patterns.any fun pattern => globMatches (Text.lower pattern) name

structure Registry where
  modes : List Mode

namespace Registry

/-- The registry that every session starts with. -/
def start : Registry := ⟨[.scallop]⟩

/-- The list with a mode put in the place of the one of its name, or last. -/
def place (mode : Mode) : List Mode → List Mode
  | [] => [mode]
  | other :: rest =>
    if other.name = mode.name then mode :: rest else other :: place mode rest

def register (registry : Registry) (mode : Mode) : Registry :=
  ⟨place mode registry.modes⟩

def registerAll (registry : Registry) (modes : List Mode) : Registry :=
  modes.foldl register registry

/-- The first mode that claims a file. -/
def forPath? (registry : Registry) (path : Text) : Option Mode :=
  let name := Text.lower (fileName path)
  registry.modes.find? (·.claims name)

/-- The mode registered under the name of Scallop. -/
def default (registry : Registry) : Mode :=
  (registry.modes.find? (·.name = Scallop.languageName)).getD .scallop

/-- The name filter of a file dialog. -/
def dialogFilter (registry : Registry) : Text :=
  let entry (mode : Mode) : Text :=
    mode.name ++ Text.ofString " Files (" ++
      Text.join (Text.ofString " ") mode.patterns ++ Text.ofString ")"
  Text.join (Text.ofString ";;")
    (registry.modes.map entry ++ [Text.ofString "All Files (*.*)"])

end Registry

end ClauseEditor.Language
