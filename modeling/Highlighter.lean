import Highlighter.Main
import Highlighter.Cursor
import Highlighter.Proofs.Append
import Highlighter.Proofs.Lines
import Highlighter.Proofs.Appearance
import Highlighter.Proofs.Resync
import Highlighter.Proofs.Contention
import Highlighter.Proofs.Order
import Highlighter.Proofs.Probe
import Highlighter.Proofs.Progress
import Highlighter.Proofs.Interior
import Highlighter.Proofs.Occurrence
import Highlighter.Proofs.Verbatim
import Highlighter.Proofs.Restoration
import Highlighter.Proofs.Operators
import Highlighter.Proofs.Caret
import Highlighter.Proofs.Identifiers
import Highlighter.Proofs.Braces
import Highlighter.Proofs.Depth
import Highlighter.Proofs.Newline
import Highlighter.Proofs.Reading
import Highlighter.Proofs.Closing
import Highlighter.Proofs.Rewriting
import Highlighter.Proofs.Excerpt
import Highlighter.Proofs.Keywords
import Highlighter.Proofs.Reordering
import Highlighter.Proofs.Settings
import Highlighter.Proofs.Home
import Highlighter.Proofs.ColorText
import Highlighter.Proofs.LongestWord
import Highlighter.Proofs.Listings
import Highlighter.Proofs.Discipline
