import ColorMarkup.Console

/-!
# Terminals

A terminal console turns events into bytes: the escape sequences that set the colors of a span, its
text, and the sequence that clears the colors again.  The bytes go to a sink, which may have room
for only so many.  This file holds

* `Sink`, with `Sink.put` for one piece of output and `Sink.putAll` for several in a row, which
  `Sink.putAll_eq_put_flatten` reads as a single piece;
* `Event.pieces`, the pieces of output for an event, and `Event.bytes`, all of them together;
* `Terminal`, the console.
-/

namespace ColorMarkup

/-! ## Sinks -/

/-- Where bytes go. -/
structure Sink where
  /-- The bytes taken so far. -/
  bytes : Array UInt8 := #[]
  /-- How many bytes there is room for in all; none for no limit. -/
  limit : Option Nat := none
  /-- Whether a full sink takes nothing without a word, instead of reporting that it is full. -/
  stalls : Bool := false
  /-- How often the sink was asked to pass its bytes on. -/
  flushes : Nat := 0
  deriving DecidableEq, Repr

namespace Sink

/-- The fault of a full sink. -/
def fullFault (sink : Sink) : Fault :=
  if sink.stalls then .stalled else .diskFull

/-- Takes as much of one piece of output as there is room for; it is a fault if that is not all. -/
def put (sink : Sink) (piece : List UInt8) : Sink × Option Fault :=
  match sink.limit with
  | none => ({ sink with bytes := sink.bytes ++ piece }, none)
  | some limit =>
    let room := limit - sink.bytes.size
    ({ sink with bytes := sink.bytes ++ piece.take room },
      if room < piece.length then some sink.fullFault else none)

/-- Takes several pieces one after the other, up to the first that does not fit. -/
def putAll (sink : Sink) : List (List UInt8) → Sink × Option Fault
  | [] => (sink, none)
  | piece :: rest =>
    match sink.put piece with
    | (next, none) => putAll next rest
    | (next, some fault) => (next, some fault)

/-- A sink without a limit takes everything. -/
theorem put_of_limit_eq_none {sink : Sink} (h : sink.limit = none) (piece : List UInt8) :
    sink.put piece = ({ sink with bytes := sink.bytes ++ piece }, none) := by
  simp [put, h]

/-- Several pieces in a row leave the sink as all of them at once would: it takes the same bytes,
and it is a fault under the same circumstances. -/
theorem putAll_eq_put_flatten (sink : Sink) (pieces : List (List UInt8)) :
    sink.putAll pieces = sink.put pieces.flatten := by
  have happend (taken : Array UInt8) (xs ys : List UInt8) :
      taken ++ xs ++ ys = taken ++ (xs ++ ys) := by
    apply Array.ext'
    simp
  have hsize (taken : Array UInt8) (xs : List UInt8) :
      (taken ++ xs).size = taken.size + xs.length := by
    simp [← Array.length_toList]
  induction pieces generalizing sink with
  | nil =>
    obtain ⟨bytes, limit, stalls, flushes⟩ := sink
    cases limit <;> simp [putAll, put]
  | cons piece rest ih =>
    obtain ⟨bytes, limit, stalls, flushes⟩ := sink
    rw [putAll, List.flatten_cons]
    generalize rest.flatten = later at ih
    cases limit with
    | none => simp [put, ih, happend]
    | some limit =>
      by_cases hfits : piece.length ≤ limit - bytes.size
      · have henough : ¬ limit - bytes.size < piece.length := Nat.not_lt.2 hfits
        have hleft : limit - bytes.size - piece.length < later.length ↔
            limit - bytes.size < piece.length + later.length := by omega
        simp [put, henough, ih, fullFault, List.take_of_length_le hfits, List.take_append,
          happend, hsize, hleft, Nat.sub_add_eq]
      · have hshort : limit - bytes.size < piece.length := Nat.lt_of_not_le hfits
        simp [put, hshort, fullFault, List.take_append_of_le_length (Nat.le_of_lt hshort),
          Nat.lt_add_right later.length hshort]

/-- Asks the sink to pass its bytes on, which a full one cannot. -/
def flush (sink : Sink) : Sink × Option Fault :=
  ({ sink with flushes := sink.flushes + 1 },
    match sink.limit with
    | none => none
    | some limit => if limit ≤ sink.bytes.size then some .flushFailed else none)

end Sink

/-! ## The bytes of an event -/

namespace Escape

/-- A control sequence that changes how a terminal shows what follows. -/
def sequence (parameters : Text) : Text :=
  ['\x1b', '['] ++ parameters ++ ['m']

/-- Sets the foreground. -/
def foreground (color : Color) : Text :=
  sequence ("38;5;".toList ++ .ofNat color.number)

/-- Sets the background. -/
def background (color : Color) : Text :=
  sequence ("48;5;".toList ++ .ofNat color.number)

/-- Clears both colors. -/
def reset : Text :=
  sequence ['0']

end Escape

/-- The pieces of output for a span: the colors that it sets, the text, and a reset if it set
any. -/
def Span.pieces (span : Span) : List Text :=
  (span.paint.foreground.map Escape.foreground).toList
    ++ (span.paint.background.map Escape.background).toList
    ++ [span.text]
    ++ (if span.paint.isPlain then [] else [Escape.reset])

/-- The pieces of output for an event. -/
def Event.pieces : Event → List Text
  | .span piece => piece.pieces
  | .lineBreak => [['\n']]

/-- All bytes of an event. -/
def Event.bytes (event : Event) : List UInt8 :=
  event.pieces.flatMap Text.utf8

/-! ## The console -/

/-- A console that shows events on a terminal. -/
structure Terminal where
  sink : Sink := {}
  deriving DecidableEq, Repr

namespace Terminal

/-- Writes the pieces of an event one after the other. -/
def write (terminal : Terminal) (event : Event) : Terminal × Option Fault :=
  let (sink, fault) := terminal.sink.putAll (event.pieces.map Text.utf8)
  (⟨sink⟩, fault)

instance : Console Terminal where
  write := write

/-- Passes on what was written. -/
def flush (terminal : Terminal) : Terminal × Option Fault :=
  let (sink, fault) := terminal.sink.flush
  (⟨sink⟩, fault)

/-- The bytes written so far. -/
def bytes (terminal : Terminal) : List UInt8 :=
  terminal.sink.bytes.toList

end Terminal

end ColorMarkup
