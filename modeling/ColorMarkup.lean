import ColorMarkup.Text
import ColorMarkup.Unicode.ClusterBreak
import ColorMarkup.Unicode.DoubleWidth
import ColorMarkup.Unicode.Lowercase
import ColorMarkup.Unicode.Printable
import ColorMarkup.Text.Quoted
import ColorMarkup.Text.Width
import ColorMarkup.Paint
import ColorMarkup.Markup.Classifier
import ColorMarkup.Console.Recorder
import ColorMarkup.Console.Terminal
import ColorMarkup.Render
import ColorMarkup.Show
import ColorMarkup.Program
import ColorMarkup.Main
import ColorMarkup.Highlight.Marker
import ColorMarkup.Proofs.Alignment
import ColorMarkup.Proofs.Rendering
import ColorMarkup.Proofs.Glyph
import ColorMarkup.Proofs.Occurrence
import ColorMarkup.Proofs.Highlighting
import ColorMarkup.Proofs.Tsv
import ColorMarkup.Proofs.ShownTable
import ColorMarkup.Proofs.Session
import ColorMarkup.Proofs.Screen
import ColorMarkup.Proofs.Refusal
import ColorMarkup.Proofs.Seam
import ColorMarkup.Proofs.Decomposition
import ColorMarkup.Proofs.Visible
import ColorMarkup.Proofs.Acceptance
import ColorMarkup.Proofs.Outcome
import ColorMarkup.Proofs.Cursor
import ColorMarkup.Proofs.ColorName
import ColorMarkup.Proofs.DirectiveForm
import ColorMarkup.Proofs.ReadTable
import ColorMarkup.Proofs.Snapshot
import ColorMarkup.Proofs.RenderLog
import ColorMarkup.Proofs.TableRows
import ColorMarkup.Proofs.Invocation
