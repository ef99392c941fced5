import ClauseEditor.Scallop.Vocabulary

/-!
# The lexical scan of a line

Indentation depends on the brackets that are open at the start of a line,
and a bracket inside a string or a comment is not one.  The scan runs a
small automaton over the line with one character of lookahead.  It yields
the boundary state after the line and the line's code text, in which the
body of each string and each block comment is blank, so that positions stay
the same; a line comment ends the code text.

A string ends with its line at the latest; only block comments go on to the
next line.
-/

namespace ClauseEditor.Indent

open ClauseEditor.Scallop

/-- What the text before a line boundary leaves open. -/
structure Boundary where
  depth : Int
  inComment : Bool
deriving DecidableEq

/-- The boundary before the first line. -/
def Boundary.start : Boundary := ⟨0, false⟩

/-- What the automaton takes the next character for. -/
inductive Phase where
  /-- Code, outside strings and comments. -/
  | code
  /-- The second character of the mark that opens a block comment. -/
  | opener
  /-- The inside of a block comment. -/
  | comment
  /-- The second character of the mark that closes a block comment. -/
  | closer
  /-- The inside of a string. -/
  | string
  /-- The character after a backslash in a string. -/
  | escape
deriving DecidableEq

namespace Phase

/-- The phase in which a line starts. -/
def ofBoundary (boundary : Boundary) : Phase :=
  if boundary.inComment then comment else code

/-- The phase after a character, when `next?` is the character after it. -/
def next (phase : Phase) (c : CodePoint) (next? : Option CodePoint) : Phase :=
  match phase with
  | code =>
    if c = slash ∧ next? = some star then opener
    else if c = quote then string
    else code
  | opener => comment
  | comment => if c = star ∧ next? = some slash then closer else comment
  | closer => code
  | string =>
    if c = quote then code else if c = backslash then escape else string
  | escape => string

/-- What the code text shows for a character: itself or a blank. -/
def shown (phase : Phase) (c : CodePoint) (next? : Option CodePoint) : CodePoint :=
  match phase with
  | code => if c = slash ∧ next? = some star then blank else c
  | string => if c = quote then c else blank
  | _ => blank

/-- Whether a line comment starts at the character. -/
def startsLineComment
    (phase : Phase)
    (c : CodePoint)
    (next? : Option CodePoint) :
    Bool :=
  phase = code && c = slash && next? = some slash

end Phase

/-- The depth after a character of code.  The depth never drops below zero. -/
def depthAfter (depth : Int) (c : CodePoint) : Int :=
  if c ∈ openBrackets then depth + 1
  else if c ∈ closeBrackets ∧ 0 < depth then depth - 1
  else depth

/-- The outcome of a scan. -/
structure Scanned where
  boundary : Boundary
  code : Text
deriving DecidableEq

/-- The scan of the rest of a line. -/
def scanFrom (phase : Phase) (depth : Int) : Text → Scanned
  | [] => ⟨⟨depth, phase = .comment⟩, []⟩
  | c :: rest =>
    if phase.startsLineComment c rest.head? then ⟨⟨depth, false⟩, []⟩
    else
      let depthNext := if phase = .code then depthAfter depth c else depth
      let scanned := scanFrom (phase.next c rest.head?) depthNext rest
      ⟨scanned.boundary, phase.shown c rest.head? :: scanned.code⟩

/-- The scan of a line that starts at a boundary. -/
def Boundary.scan (boundary : Boundary) (line : Text) : Scanned :=
  scanFrom (Phase.ofBoundary boundary) boundary.depth line

/-- The boundary after a line. -/
abbrev Boundary.after (boundary : Boundary) (line : Text) : Boundary :=
  (boundary.scan line).boundary

@[simp]
theorem scanFrom_nil (phase : Phase) (depth : Int) :
    scanFrom phase depth [] = ⟨⟨depth, phase = .comment⟩, []⟩ := rfl

theorem scan_nil (boundary : Boundary) :
    boundary.scan [] = ⟨boundary, []⟩ := by
  rcases boundary with ⟨depth, inComment⟩
  cases inComment <;> rfl

end ClauseEditor.Indent
