import ColorMarkup.Text

/-!
# Tokens

A markup text is cut at every occurrence of its delimiter, and nothing else happens to it: adjacent
delimiters, and delimiters at the ends, make empty tokens.  This file holds

* `tokens`, all tokens of a text;
* `Cursor`, which hands the tokens out one by one and knows the place, in bytes, where the next one
  starts.
-/

namespace ColorMarkup

namespace Text

/-- The text after its first `count` bytes; none if it has fewer, or if the cut would part the bytes
of one scalar. -/
def dropBytes? : Nat → Text → Option Text
  | 0, text => some text
  | _ + 1, [] => none
  | count + 1, c :: rest =>
    if c.utf8Size ≤ count + 1 then dropBytes? (count + 1 - c.utf8Size) rest else none

/-- Dropping the bytes of a first part leaves the rest. -/
theorem dropBytes?_byteLength_append (start rest : Text) :
    dropBytes? start.byteLength (start ++ rest) = some rest := by
  induction start with
  | nil => simp [dropBytes?]
  | cons c start ih =>
    have hpos : 0 < c.utf8Size := c.utf8Size_pos
    obtain ⟨n, hn⟩ : ∃ n, c.utf8Size + byteLength start = n + 1 :=
      ⟨c.utf8Size + byteLength start - 1, by omega⟩
    rw [byteLength_cons, hn, List.cons_append, dropBytes?, ← hn, if_pos (by omega),
      Nat.add_sub_cancel_left, ih]

end Text

namespace Markup

/-- The tokens of a markup text, in order. -/
def tokens (delimiter : Char) (markup : Text) : List Text :=
  markup.splitOn delimiter

/-- Where a walk through the tokens of a text stands. -/
structure Cursor where
  input : Text
  delimiter : Char
  /-- The byte at which the next token starts; none once the last token has been handed out. -/
  offset : Option Nat := some 0
  deriving DecidableEq, Repr

namespace Cursor

/-- Whether the last token has been handed out. -/
def isFinished (cursor : Cursor) : Bool :=
  cursor.offset.isNone

/-- The next token and the cursor after it.  The last token ends where the text does, even if it is
empty; after it there is none. -/
def next? (cursor : Cursor) : Option (Text × Cursor) := do
  let start ← cursor.offset
  let rest ← cursor.input.dropBytes? start
  let token : Text := rest.takeWhile (· != cursor.delimiter)
  let after :=
    if cursor.delimiter ∈ rest then some (start + token.byteLength + cursor.delimiter.utf8Size)
    else none
  return (token, { cursor with offset := after })

/-- The tokens still to come, at most `count` of them, each with the cursor after it. -/
def walkAtMost : Nat → Cursor → List (Text × Cursor)
  | 0, _ => []
  | count + 1, cursor =>
    match cursor.next? with
    | none => []
    | some (token, after) => (token, after) :: walkAtMost count after

/-- The tokens still to come, each with the cursor after it.  A text has at most one token more than
it has scalars, which bounds the walk. -/
def walk (cursor : Cursor) : List (Text × Cursor) :=
  walkAtMost (cursor.input.length + 1) cursor

/-- A finished cursor has no next token. -/
theorem next?_of_isFinished {cursor : Cursor} (h : cursor.isFinished = true) :
    cursor.next? = none := by
  rw [isFinished, Option.isNone_iff_eq_none] at h
  simp [next?, h]

end Cursor

end Markup

end ColorMarkup
