import ColorMarkup.Unicode.WhiteSpace

/-!
# Texts

A text is the list of its scalars, so that every function on texts is a recursion on a list.  This
file holds

* `byteLength`, `utf8` and `ofUtf8?`, the UTF-8 form of a text, its length and the way back;
* `trim` and `isBlank`, which look at white space;
* `ofNat` and `lines`, for the texts that the program writes itself.
-/

namespace ColorMarkup

/-- A text is the list of its scalars. -/
abbrev Text := List Char

namespace Text

/-! ## The UTF-8 form -/

/-- The number of bytes of the UTF-8 form. -/
def byteLength : Text → Nat
  | [] => 0
  | c :: rest => c.utf8Size + byteLength rest

/-- The UTF-8 form. -/
def utf8 (text : Text) : List UInt8 :=
  text.flatMap String.utf8EncodeChar

/-- The text of which `bytes` is the UTF-8 form, if there is one. -/
def ofUtf8? (bytes : List UInt8) : Option Text :=
  bytes.toByteArray.utf8Decode?.map Array.toList

@[simp] theorem byteLength_nil : byteLength [] = 0 := rfl

@[simp] theorem byteLength_cons (c : Char) (text : Text) :
    byteLength (c :: text) = c.utf8Size + byteLength text := rfl

@[simp] theorem byteLength_append (a b : Text) :
    byteLength (a ++ b) = byteLength a + byteLength b := by
  induction a with
  | nil => simp
  | cons c a ih => simp [ih, Nat.add_assoc]

@[simp] theorem utf8_append (a b : Text) : utf8 (a ++ b) = utf8 a ++ utf8 b := by
  simp [utf8]

/-- `byteLength` counts the bytes of `utf8`. -/
theorem length_utf8 (text : Text) : text.utf8.length = text.byteLength := by
  induction text with
  | nil => rfl
  | cons c rest ih => simp [utf8] at ih; simp [utf8, ih]

private theorem toByteArray_utf8 (text : Text) : text.utf8.toByteArray = text.utf8Encode := rfl

/-- Reading the UTF-8 form of a text gives the text back. -/
theorem ofUtf8?_utf8 (text : Text) : ofUtf8? text.utf8 = some text := by
  rw [ofUtf8?, toByteArray_utf8, List.utf8Decode?_utf8Encode]
  rfl

/-- A text can be read only from its own UTF-8 form. -/
theorem ofUtf8?_eq_some_iff {bytes : List UInt8} {text : Text} :
    ofUtf8? bytes = some text ↔ bytes = text.utf8 := by
  refine ⟨fun h => ?_, fun h => h ▸ ofUtf8?_utf8 text⟩
  obtain ⟨scalars, hdecoded, rfl⟩ := Option.map_eq_some_iff.1 h
  have hencoded : (bytes.toByteArray.utf8Decode?.get (by simp [hdecoded])).toList.utf8Encode
      = bytes.toByteArray := ByteArray.utf8Encode_get_utf8Decode?
  simp only [hdecoded, Option.get_some] at hencoded
  have hbytes := congrArg (fun array : ByteArray => array.data.toList) hencoded
  simpa [utf8, List.utf8Encode] using hbytes.symm

/-! ## White space -/

/-- The text without the characters at its end that satisfy `p`. -/
def dropEndWhile (p : Char → Bool) (text : Text) : Text :=
  (text.reverse.dropWhile p).reverse

/-- The text without the white space at its two ends. -/
def trim (text : Text) : Text :=
  dropEndWhile Unicode.isWhiteSpace (text.dropWhile Unicode.isWhiteSpace)

/-- Whether the text holds nothing but white space. -/
def isBlank (text : Text) : Bool :=
  text.all Unicode.isWhiteSpace

/-! ## Written texts -/

/-- The decimal digits of a number. -/
def ofNat (n : Nat) : Text :=
  Nat.toDigits 10 n

/-- The given lines with a line break between each two. -/
def lines (parts : List Text) : Text :=
  List.intercalate ['\n'] parts

end Text

end ColorMarkup
