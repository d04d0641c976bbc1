/-!
# White space

The characters that Unicode calls white space.
-/

namespace ColorMarkup.Unicode

/-- The white space characters, as closed intervals of code points. -/
def whiteSpaceIntervals : List (Nat × Nat) :=
  [(0x0009, 0x000d), (0x0020, 0x0020), (0x0085, 0x0085), (0x00a0, 0x00a0), (0x1680, 0x1680),
    (0x2000, 0x200a), (0x2028, 0x2029), (0x202f, 0x202f), (0x205f, 0x205f), (0x3000, 0x3000)]

/-- Whether `c` is white space.  The zero width space U+200B and the byte order mark U+FEFF are
not. -/
def isWhiteSpace (c : Char) : Bool :=
  whiteSpaceIntervals.any fun interval => interval.1 ≤ c.toNat && c.toNat ≤ interval.2

end ColorMarkup.Unicode
