import ClauseEditor.Text.CodePoint

/-!
# Line ends of files

A file may end its lines with a line feed, a carriage return or both.  All
three are read as a line feed, and lines are written with line feeds.
-/

namespace ClauseEditor.Text

/-- The text with each line end as a line feed. -/
def withLineFeeds : Text → Text
  | [] => []
  | [c] => if c = '\r' then ofString "\n" else [c]
  | c :: next :: rest =>
    if c = '\r' then
      if next = '\n' then CodePoint.ofChar '\n' :: withLineFeeds rest
      else CodePoint.ofChar '\n' :: withLineFeeds (next :: rest)
    else c :: withLineFeeds (next :: rest)

end ClauseEditor.Text
