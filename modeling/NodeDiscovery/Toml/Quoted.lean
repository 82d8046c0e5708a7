import NodeDiscovery.Codec.Numeral
import NodeDiscovery.Toml.Layout

/-!
# Quoted texts

Texts stand in single or double quotes, one or three of them.  Between double quotes a backslash
begins an escape; between three quotes a text runs over several lines.  A text is first cut off at
its closing quotes, and what was between them is then read.

## Main definitions

* `cutShort?`, `cutLong?` — the text up to one and up to three closing quotes.
* `unescape?` — what a text with escapes stands for.
* `joinLines` — a text whose lines may end with a backslash.
* `shortText?`, `longText?` — texts in one and in three quotes.
-/

namespace NodeDiscovery
namespace Toml

/-! ### Cutting at the closing quotes -/

/-- The text up to a quote and the text behind it.  With escapes, a character behind a backslash
is no closing quote. -/
def cutShort? (quote : Char) (escapes : Bool) : Reader (List Char)
  | [] => none
  | [c] => if c = quote then some ([], []) else none
  | c :: d :: rest =>
    if c = quote then some ([], d :: rest)
    else if escapes && c = '\\' then
      (cutShort? quote escapes rest).map fun (inner, rest) => (c :: d :: inner, rest)
    else (cutShort? quote escapes (d :: rest)).map fun (inner, rest) => (c :: inner, rest)

/-- The text up to three quotes and the text behind them.  Of up to five quotes in a row the last
three close, and six are too many. -/
def cutLong? (quote : Char) (escapes : Bool) : Reader (List Char)
  | [] => none
  | c :: rest =>
    if c = quote && rest.take 2 = [quote, quote] && rest.take 3 ≠ [quote, quote, quote] then
      some ([], rest.drop 2)
    else if rest.take 5 = List.replicate 5 quote && c = quote then none
    else if escapes && c = '\\' then
      match rest with
      | [] => none
      | d :: rest =>
        (cutLong? quote escapes rest).map fun (inner, rest) => (c :: d :: inner, rest)
    else (cutLong? quote escapes rest).map fun (inner, rest) => (c :: inner, rest)

/-! ### Reading what is between the quotes -/

/-- The text with a line feed alone at every line end. -/
def lineFeeds : List Char → List Char
  | '\r' :: '\n' :: rest => '\n' :: lineFeeds rest
  | c :: rest => c :: lineFeeds rest
  | [] => []

/-- Whether nothing but blanks stands before the next line feed. -/
def endsLine (text : List Char) : Bool :=
  (skipBlanks text).head? = some '\n'

/-- The text without the backslashes at the ends of lines and all the blanks and line feeds that
follow such a backslash; the flag says whether the text follows one. -/
def joinLines (skipping : Bool) : List Char → List Char
  | [] => []
  | [c] => if skipping && (isBlank c || c = '\n') then [] else [c]
  | c :: d :: rest =>
    if skipping && (isBlank c || c = '\n') then joinLines true (d :: rest)
    else if c = '\\' then
      if endsLine (d :: rest) then joinLines true (d :: rest)
      else '\\' :: d :: joinLines false rest
    else c :: joinLines false (d :: rest)

/-- What the character behind a backslash stands for. -/
def escaped? : Char → Option Char
  | 'b' => some '\x08'
  | 't' => some '\t'
  | 'n' => some '\n'
  | 'f' => some '\x0c'
  | 'r' => some '\r'
  | '"' => some '"'
  | '\\' => some '\\'
  | _ => none

/-- The character whose number hexadecimal digits give. -/
def codePoint? (digits : List Char) : Option Char :=
  let n := Numeral.value 16 digits
  if digits.all Numeral.isHexDigit ∧ n.isValidChar then some (Char.ofNat n) else none

/-- Puts a character, if there is one, before a text, if there is one. -/
def before? (c : Option Char) (text : Option (List Char)) : Option (List Char) :=
  match c, text with
  | some c, some text => some (c :: text)
  | _, _ => none

/-- The text that a text with escapes stands for.  Characters outside escapes satisfy
`allowed`. -/
def unescape? (allowed : Char → Bool) : List Char → Option (List Char)
  | [] => some []
  | '\\' :: 'u' :: a :: b :: c :: d :: rest =>
    before? (codePoint? [a, b, c, d]) (unescape? allowed rest)
  | '\\' :: 'U' :: a :: b :: c :: d :: e :: f :: g :: h :: rest =>
    before? (codePoint? [a, b, c, d, e, f, g, h]) (unescape? allowed rest)
  | '\\' :: c :: rest => before? (escaped? c) (unescape? allowed rest)
  | c :: rest =>
    if c ≠ '\\' ∧ allowed c then before? (some c) (unescape? allowed rest) else none

/-- The text itself, if all of its characters are allowed. -/
def verbatim? (allowed : Char → Bool) (text : List Char) : Option (List Char) :=
  if text.all allowed then some text else none

/-! ### Quoted texts -/

/-- Whether a character may stand in a text of several lines. -/
def isLongTextChar (c : Char) : Bool :=
  isTextChar c || c = '\n'

/-- What follows an opening quote: a text of one line and the closing quote.  Escapes are those
of the double quote. -/
def shortText? (quote : Char) (text : List Char) : Option (String × List Char) := do
  let escapes := decide (quote = '"')
  let (raw, rest) ← cutShort? quote escapes text
  let content ← if escapes then unescape? isTextChar raw else verbatim? isTextChar raw
  return (String.ofList content, rest)

/-- What follows three opening quotes: a text of several lines and three closing quotes.  A line
end right behind the opening quotes does not belong to the text. -/
def longText? (quote : Char) (text : List Char) : Option (String × List Char) := do
  let escapes := decide (quote = '"')
  let (raw, rest) ← cutLong? quote escapes ((newline? text).getD text)
  let lines := lineFeeds raw
  let content ← if escapes then unescape? isLongTextChar (joinLines false lines)
    else verbatim? isLongTextChar lines
  return (String.ofList content, rest)

end Toml
end NodeDiscovery
