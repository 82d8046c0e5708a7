/-!
# Blanks, line ends and comments

What may stand between the words of a TOML document.  A line ends with a line feed, which a
carriage return may precede; a comment runs from a hash sign to the end of its line.

## Main definitions

* `isTextChar` — the characters of comments and quoted texts.
* `skipBlanks`, `lineEnd?`, `skipGap` — what stands inside a line, after it, and between the
  items of a list.
-/

namespace NodeDiscovery
namespace Toml

/-- A reader takes a value off the front of a text and leaves the rest; `none` if the text does
not begin with one. -/
abbrev Reader (α : Type) := List Char → Option (α × List Char)

/-- Whether a character is a space or a tabulator. -/
def isBlank (c : Char) : Bool :=
  c = ' ' || c = '\t'

/-- Whether a character may stand in a comment or a quoted text: every character but the control
characters, of which the tabulator alone is allowed. -/
def isTextChar (c : Char) : Bool :=
  c = '\t' || (0x20 ≤ c.toNat && c.toNat ≠ 0x7f)

/-- The text without the blanks at its front. -/
def skipBlanks (text : List Char) : List Char :=
  text.dropWhile isBlank

/-- The text behind a line feed, with or without a carriage return, at its front. -/
def newline? : List Char → Option (List Char)
  | '\n' :: rest => some rest
  | '\r' :: '\n' :: rest => some rest
  | _ => none

/-- The text without a comment at its front. -/
def skipComment : List Char → List Char
  | '#' :: rest => rest.dropWhile isTextChar
  | text => text

/-- The text behind the rest of a line that holds nothing but blanks and a comment; `none` if it
holds anything else. -/
def lineEnd? (text : List Char) : Option (List Char) :=
  match skipComment (skipBlanks text) with
  | [] => some []
  | rest => newline? rest

/-- The text without the blanks, line ends and comments at its front; the flag says whether the
text begins inside a comment. -/
def skipGap (inComment : Bool) : List Char → List Char
  | [] => []
  | '\n' :: rest => skipGap false rest
  | '\r' :: '\n' :: rest => skipGap false rest
  | c :: rest =>
    if inComment && isTextChar c then skipGap true rest
    else if isBlank c then skipGap false rest
    else if c = '#' then skipGap true rest
    else c :: rest

end Toml
end NodeDiscovery
