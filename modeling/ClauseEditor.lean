import ClauseEditor.Text.CodePoint
import ClauseEditor.Text.Word
import ClauseEditor.Text.Printable
import ClauseEditor.Text.DecimalDigit
import ClauseEditor.Text.Mark
import ClauseEditor.Text.Blank
import ClauseEditor.Text.LowerCase
import ClauseEditor.Decimal.Notation
import ClauseEditor.Json.Reader
import ClauseEditor.Json.Writer
import ClauseEditor.Indent.Reindent
import ClauseEditor.Indent.Outdent
import ClauseEditor.Commenting
import ClauseEditor.Language.Registry
import ClauseEditor.Highlight.Line
import ClauseEditor.Document.History
import ClauseEditor.Document.LineView
import ClauseEditor.Json.Integer
import ClauseEditor.Editor.Command
import ClauseEditor.Preferences.Saved
import ClauseEditor.Window.Action
import ClauseEditor.Window.Menu
import ClauseEditor.Proofs.Indent.Coherence
import ClauseEditor.Proofs.Indent.Layout
import ClauseEditor.Proofs.Document.Lines
import ClauseEditor.Proofs.Document.Replay
import ClauseEditor.Proofs.Document.Consistency
import ClauseEditor.Proofs.Editor.Alignment
import ClauseEditor.Proofs.Editor.Passes
import ClauseEditor.Proofs.Editor.EditBlocks
import ClauseEditor.Proofs.Editor.Reindentation
import ClauseEditor.Proofs.Document.Typing
import ClauseEditor.Proofs.Indent.Recall
import ClauseEditor.Proofs.Editor.LineBreak
import ClauseEditor.Proofs.Editor.LineEditing
import ClauseEditor.Proofs.Editor.Session
import ClauseEditor.Proofs.Editor.Tidying
import ClauseEditor.Proofs.Editor.BreakColumn
import ClauseEditor.Proofs.Indent.Reading
import ClauseEditor.Proofs.Indent.Nesting
import ClauseEditor.Proofs.Indent.Transparency
import ClauseEditor.Proofs.Indent.Extent
import ClauseEditor.Proofs.Indent.Gaps
import ClauseEditor.Proofs.Indent.Levels
import ClauseEditor.Proofs.Indent.Independence
import ClauseEditor.Proofs.Indent.LineEnds
import ClauseEditor.Proofs.Highlight.Literals
import ClauseEditor.Proofs.Highlight.Agreement
import ClauseEditor.Proofs.Document.PlainText
import ClauseEditor.Proofs.Storage.Files
import ClauseEditor.Proofs.Text.Newline
import ClauseEditor.Proofs.Window.RoundTrip
import ClauseEditor.Proofs.Editor.Confluence
import ClauseEditor.Proofs.Decimal.Rounding
import ClauseEditor.Proofs.Decimal.Shortest
import ClauseEditor.Proofs.Editor.Frame
import ClauseEditor.Proofs.Json.Numeral
import ClauseEditor.Proofs.Json.Quotation
import ClauseEditor.Proofs.Json.Members
import ClauseEditor.Proofs.Json.RoundTrip
import ClauseEditor.Proofs.Json.Reading
import ClauseEditor.Proofs.Json.Ascii
import ClauseEditor.Proofs.Preferences.Validity
import ClauseEditor.Proofs.Storage.Writing
import ClauseEditor.Proofs.Preferences.Saved
import ClauseEditor.Proofs.Editor.Appearance
import ClauseEditor.Proofs.Window.Restart
import ClauseEditor.Proofs.Document.Timeline
import ClauseEditor.Proofs.Editor.Blocks
import ClauseEditor.Proofs.Commenting
import ClauseEditor.Proofs.Editor.Undoing
import ClauseEditor.Proofs.Window.Unsaved
import ClauseEditor.Proofs.Document.Places
import ClauseEditor.Proofs.Editor.Toggling
import ClauseEditor.Proofs.Highlight.Borders
import ClauseEditor.Proofs.Highlight.Hiding
import ClauseEditor.Proofs.Text.Stripping
import ClauseEditor.Proofs.Indent.CursorColumn
import ClauseEditor.Proofs.Editor.CursorLine
import ClauseEditor.Proofs.Editor.Keystrokes
import ClauseEditor.Proofs.Editor.ElectricBracket
import ClauseEditor.Proofs.Editor.Pairing
import ClauseEditor.Proofs.Highlight.WordRoles
import ClauseEditor.Proofs.Editor.ControlKeys
import ClauseEditor.Proofs.Editor.RewrittenLines
import ClauseEditor.Proofs.Highlight.BlockStates
import ClauseEditor.Proofs.Json.Grammar
import ClauseEditor.Proofs.Json.Leaves
import ClauseEditor.Proofs.Json.Parsing
import ClauseEditor.Proofs.Preferences.Merging
import ClauseEditor.Proofs.Preferences.Loading
import ClauseEditor.Proofs.Window.Saving
import ClauseEditor.Proofs.Window.Zoom
import ClauseEditor.Proofs.Indent.Moving
import ClauseEditor.Proofs.Language.Extensions
import ClauseEditor.Proofs.Editor.CursorReports
import ClauseEditor.Proofs.Window.Status
import ClauseEditor.Proofs.Document.Slices
import ClauseEditor.Proofs.Indent.CodeText
import ClauseEditor.Proofs.Editor.TypingOn
