import ColorMarkup.Markup.Item

/-!
# Reading markup step by step

`items` reads the tokens of a text all at once.  A classifier hands the items out one by one: it
keeps a cursor, what is expected of the next token, and whether a token has been handed out, and it
knows the last token by the cursor having come to its end.  This file holds

* `Classifier`, with `Classifier.next?`, one step;
* `Classifier.walk`, all steps to the end.
-/

namespace ColorMarkup.Markup

/-- Where the reading of a markup text stands. -/
structure Classifier where
  cursor : Cursor
  /-- What is expected of the next token. -/
  expectation : Expectation := .directive
  /-- Whether the next token is the first. -/
  first : Bool := true
  deriving DecidableEq, Repr

namespace Classifier

/-- The classifier at the start of a markup text. -/
def new (delimiter : Char) (markup : Text) : Classifier :=
  { cursor := { input := markup, delimiter } }

/-- The next item and the classifier after it.  The first token and the last are shown whatever they
look like. -/
def next? (classifier : Classifier) : Option (Item × Classifier) := do
  let (token, cursor) ← classifier.cursor.next?
  let bounded := !classifier.first && !cursor.isFinished
  let reading := if bounded then classifier.expectation.read token else .text
  return (⟨token, reading⟩, { cursor, expectation := reading.expectation, first := false })

/-- The items still to come, at most `count` of them, each with the classifier after it. -/
def walkAtMost : Nat → Classifier → List (Item × Classifier)
  | 0, _ => []
  | count + 1, classifier =>
    match classifier.next? with
    | none => []
    | some (item, after) => (item, after) :: walkAtMost count after

/-- The items still to come, each with the classifier after it; there are no more of them than
tokens. -/
def walk (classifier : Classifier) : List (Item × Classifier) :=
  walkAtMost (classifier.cursor.input.length + 1) classifier

end Classifier

end ColorMarkup.Markup
