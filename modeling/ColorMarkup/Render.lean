import ColorMarkup.Console
import ColorMarkup.Markup.Item

/-!
# Rendering

Markup is rendered in one pass over its items: a directive changes the colors, a token that is shown
is written in the colors of the moment and puts them back to the configured ones.  This file holds

* `Config`, the options of a rendering, and `Brush`, the colors of the moment;
* `render`, the script for one markup line;
* `renderLines`, the script for several.
-/

namespace ColorMarkup

/-- The options of a rendering. -/
structure Config where
  /-- The paint where no directive applies. -/
  defaults : Paint := .plain
  /-- Whether the line break after the last line is left out. -/
  noNewline : Bool := false
  /-- The character that parts the tokens of the markup. -/
  delimiter : Char := '#'
  deriving DecidableEq, Repr

/-! ## The brush -/

/-- The colors in effect at one point of a rendering. -/
structure Brush where
  /-- The paint in effect. -/
  paint : Paint
  /-- The paint to go back to. -/
  defaults : Paint
  deriving DecidableEq, Repr

namespace Brush

/-- The brush at the start. -/
def new (config : Config) : Brush :=
  ⟨config.defaults, config.defaults⟩

/-- The brush after a directive: the colors that it leaves open stay. -/
def apply (brush : Brush) (directive : Paint) : Brush :=
  { brush with paint := directive.onto brush.paint }

/-- The brush with the configured paint. -/
def revert (brush : Brush) : Brush :=
  { brush with paint := brush.defaults }

/-- A span in the paint in effect. -/
def span (brush : Brush) (text : Text) : Span :=
  ⟨text, brush.paint⟩

/-- Writes a token; an empty token is not worth a call. -/
def write (brush : Brush) (token : Text) : Script :=
  if token.isEmpty then [] else [.write (.span (brush.span token))]

end Brush

/-! ## Scripts for markup -/

/-- The script for the items of a markup line. -/
def renderItems (brush : Brush) : List Markup.Item → Script
  | [] => []
  | item :: rest =>
    match item.reading with
    | .directive paint => renderItems (brush.apply paint) rest
    | .text | .unresolved =>
      item.records.map .record ++ brush.write item.token ++ renderItems brush.revert rest

/-- The script for one markup line.  When it has been carried out, the log hears of it. -/
def render (config : Config) (markup : Text) : Script :=
  let items := Markup.items config.delimiter markup
  renderItems (.new config) items
    ++ (if config.noNewline then [] else [.write .lineBreak])
    ++ [.record (.rendered items.length markup.byteLength)]

/-- The script for several markup lines.  Every line but the last ends in a line break; the last
does as configured. -/
def renderLines (config : Config) : List Text → Script
  | [] => []
  | [last] => render config last
  | line :: following :: rest =>
    render { config with noNewline := false } line ++ renderLines config (following :: rest)

end ColorMarkup
