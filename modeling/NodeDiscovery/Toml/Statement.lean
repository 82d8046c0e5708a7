import NodeDiscovery.Toml.Moment
import NodeDiscovery.Toml.Number
import NodeDiscovery.Toml.Quoted
import NodeDiscovery.Toml.Value

/-!
# Statements of a TOML document

A document is a sequence of statements, one a line: a header, a doubled header, or a key with a
value.  Lists and tables in braces nest, at most `nestingLimit` deep, and a dotted key has at most
`keyLimit` names.

## Main definitions

* `key?`, `value?` — the readers of keys and values.
* `Statement`, `statement?`, `statements?` — one statement and all of a document.
-/

namespace NodeDiscovery
namespace Toml

/-! ### Keys -/

/-- Whether a character may stand in a key without quotes. -/
def isBareKeyChar (c : Char) : Bool :=
  c.isAlphanum || c = '_' || c = '-'

/-- One name of a key, in quotes or without. -/
def name? : Reader String
  | '"' :: rest => shortText? '"' rest
  | '\'' :: rest => shortText? '\'' rest
  | text =>
    match text.takeWhile isBareKeyChar with
    | [] => none
    | name => some (String.ofList name, text.dropWhile isBareKeyChar)

/-- How many names a dotted key has at most. -/
def keyLimit : Nat := 79

/-- A dotted key of at most `limit` names and the blanks around it. -/
def keyUpTo? : (limit : Nat) → Reader Key
  | 0, _ => none
  | limit + 1, text =>
    match name? (skipBlanks text) with
    | none => none
    | some (name, rest) =>
      match skipBlanks rest with
      | '.' :: rest =>
        (keyUpTo? limit rest).map fun (key, rest) => (⟨name :: key.path, key.name⟩, rest)
      | rest => some (⟨[], name⟩, rest)

/-- A key and the blanks around it. -/
def key? : Reader Key :=
  keyUpTo? keyLimit

/-! ### Values -/

/-- Whether a character may stand in a number, a moment or a truth value. -/
def isWordChar (c : Char) : Bool :=
  c.isAlphanum || c = '+' || c = '-' || c = '_' || c = '.' || c = ':'

/-- The value that a word stands for. -/
def Value.ofWord? (word : List Char) : Option Value :=
  if word = ['t', 'r', 'u', 'e'] then some (.boolean true)
  else if word = ['f', 'a', 'l', 's', 'e'] then some (.boolean false)
  else if isMoment word then some .moment
  else if isFloat word then some .float
  else (integer? word).map .integer

/-- A value that is one word, or a date and a time with a space between them. -/
def word? (text : List Char) : Option (Value × List Char) :=
  let word := text.takeWhile isWordChar
  let rest := text.dropWhile isWordChar
  let time := (rest.drop 1).takeWhile isWordChar
  if isDate word ∧ rest.head? = some ' ' ∧ isOffsetTime time then
    some (.moment, (rest.drop 1).dropWhile isWordChar)
  else (Value.ofWord? word).map fun v => (v, rest)

/-- A value that holds no other values. -/
def simpleValue? : Reader Value
  | '"' :: '"' :: '"' :: rest => (longText? '"' rest).map fun (s, rest) => (.text s, rest)
  | '"' :: rest => (shortText? '"' rest).map fun (s, rest) => (.text s, rest)
  | '\'' :: '\'' :: '\'' :: rest => (longText? '\'' rest).map fun (s, rest) => (.text s, rest)
  | '\'' :: rest => (shortText? '\'' rest).map fun (s, rest) => (.text s, rest)
  | text => word? text

/-- The items of a list up to its closing bracket, with commas between them and perhaps one
behind the last. -/
def items? (item? : Reader Value) : (fuel : Nat) → Reader (List Value)
  | 0, _ => none
  | fuel + 1, text =>
    match skipGap false text with
    | ']' :: rest => some ([], rest)
    | text =>
      match item? text with
      | none => none
      | some (v, rest) =>
        match skipGap false rest with
        | ',' :: rest => (items? item? fuel rest).map fun (vs, rest) => (v :: vs, rest)
        | ']' :: rest => some ([v], rest)
        | _ => none

/-- A key, an equals sign and a value. -/
def assignment? (item? : Reader Value) (text : List Char) :
    Option ((Key × Value) × List Char) :=
  match key? text with
  | some (key, '=' :: rest) => (item? (skipBlanks rest)).map fun (v, rest) => ((key, v), rest)
  | _ => none

/-- One or more keys with values up to a closing brace, with commas between them. -/
def assignments? (item? : Reader Value) : (fuel : Nat) → Reader (List (Key × Value))
  | 0, _ => none
  | fuel + 1, text =>
    match assignment? item? text with
    | none => none
    | some (pair, rest) =>
      match skipBlanks rest with
      | ',' :: rest =>
        (assignments? item? fuel rest).map fun (pairs, rest) => (pair :: pairs, rest)
      | '}' :: rest => some ([pair], rest)
      | _ => none

/-- The table of keys with values, in their order. -/
def Entries.ofPairs? (pairs : List (Key × Value)) : Option Entries :=
  pairs.foldlM (fun entries pair => Entries.insert? pair.1 pair.2 entries) []

/-- A table in braces, behind the opening one. -/
def inlineTable? (item? : Reader Value) (text : List Char) : Option (Value × List Char) :=
  match skipBlanks text with
  | '}' :: rest => some (.inline [], rest)
  | text =>
    match assignments? item? (text.length + 1) text with
    | none => none
    | some (pairs, rest) => (Entries.ofPairs? pairs).map fun entries => (.inline entries, rest)

/-- How deep lists and tables in braces nest at most. -/
def nestingLimit : Nat := 79

/-- A value in which lists and tables in braces nest at most `depth` deep. -/
def valueUpTo? : (depth : Nat) → Reader Value
  | depth + 1, '[' :: rest =>
    (items? (valueUpTo? depth) (rest.length + 1) rest).map fun (vs, rest) => (.array vs, rest)
  | depth + 1, '{' :: rest => inlineTable? (valueUpTo? depth) rest
  | _, text => simpleValue? text

/-- A value. -/
def value? : Reader Value :=
  valueUpTo? nestingLimit

/-! ### Statements -/

/-- What one statement of a document says. -/
inductive Statement where
  /-- The header of a table. -/
  | header (key : Key)
  /-- The doubled header of one more table of a list. -/
  | element (key : Key)
  /-- A key with a value. -/
  | entry (key : Key) (v : Value)

/-- One statement, without the rest of its line. -/
def statement? : Reader Statement
  | '[' :: '[' :: text =>
    match key? text with
    | some (key, ']' :: ']' :: rest) => some (.element key, rest)
    | _ => none
  | '[' :: text =>
    match key? text with
    | some (key, ']' :: rest) => some (.header key, rest)
    | _ => none
  | text => (assignment? value? text).map fun ((key, v), rest) => (.entry key v, rest)

/-- The statements of the lines of a text. -/
def lines? : (fuel : Nat) → List Char → Option (List Statement)
  | _, [] => some []
  | 0, _ => none
  | fuel + 1, text =>
    match lineEnd? text with
    | some rest => lines? fuel rest
    | none =>
      match statement? (skipBlanks text) with
      | none => none
      | some (statement, rest) =>
        match lineEnd? rest with
        | none => none
        | some rest => (lines? fuel rest).map (statement :: ·)

/-- The text without a byte order mark at its front. -/
def dropByteOrderMark : List Char → List Char
  | '\uFEFF' :: rest => rest
  | text => text

/-- The statements of a document. -/
def statements? (text : List Char) : Option (List Statement) :=
  let text := dropByteOrderMark text
  lines? text.length text

end Toml
end NodeDiscovery
