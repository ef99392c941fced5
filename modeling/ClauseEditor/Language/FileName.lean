import ClauseEditor.Text.CodePoint

/-!
# Paths and file names

A path is read as its components: empty components and single dots mean
nothing and are left out, two dots are a component like any other.
-/

namespace ClauseEditor.Language

/-- The components of a path. -/
def pathParts (path : Text) : List Text :=
  (path.splitOn '/').filter fun part =>
    part ≠ [] && part ≠ Text.ofString "."

/-- The last component of a path; empty if there is none. -/
def fileName (path : Text) : Text :=
  (pathParts path).getLast?.getD []

end ClauseEditor.Language
