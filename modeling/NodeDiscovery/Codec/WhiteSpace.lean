/-!
# White space

The characters with the Unicode property `White_Space`, and the trimming of both ends of a text.

## Main definitions

* `isWhiteSpace` — the property.
* `trimWhiteSpace` — a text without white space around it.
-/

namespace NodeDiscovery

/-- The ranges of code points with the Unicode property `White_Space`, both ends included. -/
def whiteSpaceRanges : List (Nat × Nat) :=
  [(0x0009, 0x000d), (0x0020, 0x0020), (0x0085, 0x0085), (0x00a0, 0x00a0), (0x1680, 0x1680),
   (0x2000, 0x200a), (0x2028, 0x2029), (0x202f, 0x202f), (0x205f, 0x205f), (0x3000, 0x3000)]

/-- Whether a character has the Unicode property `White_Space`. -/
def isWhiteSpace (c : Char) : Bool :=
  whiteSpaceRanges.any fun (first, last) => first ≤ c.toNat && c.toNat ≤ last

/-- The list without the elements at its end that satisfy `p`. -/
def dropTrailing {α : Type} (p : α → Bool) (l : List α) : List α :=
  (l.reverse.dropWhile p).reverse

/-- The text without white space at either end. -/
def trimWhiteSpace (text : List Char) : List Char :=
  dropTrailing isWhiteSpace (text.dropWhile isWhiteSpace)

end NodeDiscovery
