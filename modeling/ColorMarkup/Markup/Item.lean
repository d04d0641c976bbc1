import ColorMarkup.Markup.Directive
import ColorMarkup.Markup.Token

/-!
# Items

An item is a token together with how it is read where it stands.  A token is read as a possible
directive only if it has a delimiter on both sides and does not follow a directive; a token after a
directive is what the directive colors.  This file holds

* `Expectation`, what is expected of the next token, with `Expectation.read` and
  `Reading.expectation`, the two halves of one step;
* `items`, the items of a markup text;
* `visible`, the text that stays visible when markup is rendered, and `records`, what there is to
  tell about finding it.
-/

namespace ColorMarkup.Markup

/-! ## Reading in context -/

/-- What is expected of the next token. -/
inductive Expectation where
  /-- It may be a directive. -/
  | directive
  /-- It is what a directive colors, and is never read as a directive itself. -/
  | payload
  deriving DecidableEq, Repr

/-- What is expected after a token that was read so. -/
def Reading.expectation : Reading → Expectation
  | directive _ => .payload
  | text | unresolved => .directive

/-- Reads one token that has a delimiter on both sides. -/
def Expectation.read : Expectation → Text → Reading
  | payload, _ => .text
  | directive, token => .of token

/-! ## The items of a text -/

/-- A token and how it is read where it stands. -/
structure Item where
  token : Text
  reading : Reading
  deriving DecidableEq, Repr

namespace Item

/-- An item that is shown whatever it looks like. -/
def shown (token : Text) : Item := ⟨token, .text⟩

/-- What is visible of an item: a directive is not. -/
def visible (item : Item) : Text :=
  match item.reading with
  | .directive _ => []
  | .text | .unresolved => item.token

/-- What there is to tell about an item. -/
def records (item : Item) : List Log.Record :=
  item.reading.records item.token

end Item

/-- The items for the tokens after the first; the last of them is shown whatever it looks like. -/
def itemsAfterFirst : Expectation → List Text → List Item
  | _, [] => []
  | _, [last] => [.shown last]
  | expectation, token :: following :: rest =>
    let reading := expectation.read token
    ⟨token, reading⟩ :: itemsAfterFirst reading.expectation (following :: rest)

/-- The items of a markup text, one for every token. -/
def items (delimiter : Char) (markup : Text) : List Item :=
  match tokens delimiter markup with
  | [] => []
  | first :: rest => .shown first :: itemsAfterFirst .directive rest

private theorem map_token_itemsAfterFirst (expectation : Expectation) (rest : List Text) :
    (itemsAfterFirst expectation rest).map Item.token = rest := by
  fun_induction itemsAfterFirst expectation rest with
  | case1 => rfl
  | case2 => rfl
  | case3 expectation token following rest reading ih => simpa using ih

/-- The items of a text hold its tokens, in order. -/
theorem map_token_items (delimiter : Char) (markup : Text) :
    (items delimiter markup).map Item.token = tokens delimiter markup := by
  rw [items]
  split
  · next hcut => simp [hcut]
  · next first rest hcut => simp [hcut, Item.shown, map_token_itemsAfterFirst]

/-! ## Visible text -/

/-- The text that stays visible when the markup is rendered, without colors. -/
def visible (delimiter : Char) (markup : Text) : Text :=
  (items delimiter markup).flatMap Item.visible

/-- What there is to tell about the tokens of a markup text. -/
def records (delimiter : Char) (markup : Text) : List Log.Record :=
  (items delimiter markup).flatMap Item.records

end ColorMarkup.Markup
