import ClauseEditor.Text.CodePoint

/-!
# The vocabulary of Scallop

Scallop is a dialect of Datalog.  These are its words, markers and
delimiters: the highlighter colours by them, and indentation reads the
comment delimiters, the brackets and the rule markers.
-/

namespace ClauseEditor.Scallop

def languageName : Text := Text.ofString "Scallop"

/-- The files of the language. -/
def filePatterns : List Text := [Text.ofString "*.scl"]

/-! ## Words -/

/-- The words that open a declaration. -/
def declarations : List Text :=
  ["import", "type", "const", "rel", "relation", "query"].map Text.ofString

/-- The words that a relation's name follows in its declaration. -/
def relationDeclarations : List Text :=
  ["rel", "relation"].map Text.ofString

/-- The word that a type's name follows in its declaration. -/
def typeDeclaration : Text := Text.ofString "type"

/-- The words that join two atoms of a rule's body. -/
def connectives : List Text :=
  ["and", "or"].map Text.ofString

/-- The reserved words, connectives first. -/
def keywords : List Text :=
  connectives ++
    ["not", "implies", "where", "if", "then", "else", "exists", "forall",
      "in", "from", "case", "is", "as", "new"].map Text.ofString

def aggregators : List Text :=
  ["count", "sum", "prod", "min", "max", "argmin", "argmax", "unique",
    "top", "categorical", "uniform"].map Text.ofString

def constants : List Text :=
  ["true", "false"].map Text.ofString

def types : List Text :=
  ["i8", "i16", "i32", "i64", "i128", "isize", "u8", "u16", "u32", "u64",
    "u128", "usize", "f32", "f64", "char", "bool", "String", "Symbol",
    "DateTime", "Duration", "Entity", "Tensor"].map Text.ofString

/-! ## Markers and operators -/

/-- The markers between the head and the body of a rule. -/
def ruleMarkers : List Text :=
  [":-", "<-"].map Text.ofString

/-- The marker between a type and its supertype. -/
def subtypeMarker : Text := Text.ofString "<:"

/-- The operators; one that another extends comes after it. -/
def operators : List Text :=
  [":-", "<-", "<:", "::", ":=", "=>", "==", "!=", "<=", ">=", "&&", "||",
    "=", "<", ">", "+", "-", "*", "/", "%", "^", "!"].map Text.ofString

/-! ## Delimiters -/

abbrev slash : CodePoint := CodePoint.ofChar '/'
abbrev star : CodePoint := CodePoint.ofChar '*'
abbrev quote : CodePoint := CodePoint.ofChar '"'
abbrev backslash : CodePoint := CodePoint.ofChar '\\'
abbrev blank : CodePoint := CodePoint.ofChar ' '

/-- Opens a comment that runs to the end of its line. -/
def lineComment : Text := [slash, slash]

def blockCommentStart : Text := [slash, star]

def blockCommentEnd : Text := [star, slash]

def openBrackets : Text := Text.ofString "([\x7b"

def closeBrackets : Text := Text.ofString ")]\x7d"

end ClauseEditor.Scallop
