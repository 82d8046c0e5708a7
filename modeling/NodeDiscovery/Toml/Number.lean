import NodeDiscovery.Codec.Numeral

/-!
# Numbers in TOML

Whole numbers are written in decimal with an optional sign and no leading zeros, or in base
sixteen, eight or two behind a mark and without a sign.  Underscores may stand between digits.
Whole numbers have 64 bits and a sign; floating-point numbers have the double format, in which a
number too large on the positive side is refused.

## Main definitions

* `digits?` — digits with underscores between them.
* `integer?` — the whole number that a word stands for.
* `isFloat` — whether a word is a floating-point number.
-/

namespace NodeDiscovery
namespace Toml

/-- The digits of a numeral in which single underscores may stand between digits, without the
underscores. -/
def digits? (isDigit : Char → Bool) : List Char → Option (List Char)
  | [] => none
  | [c] => if isDigit c then some [c] else none
  | c :: '_' :: rest => if isDigit c then (digits? isDigit rest).map (c :: ·) else none
  | c :: rest => if isDigit c then (digits? isDigit rest).map (c :: ·) else none

/-- Whether a character is an octal digit. -/
def isOctalDigit (c : Char) : Bool :=
  '0' ≤ c && c ≤ '7'

/-- Whether a character is a binary digit. -/
def isBinaryDigit (c : Char) : Bool :=
  c = '0' || c = '1'

/-- The decimal digits of a whole number without a sign; only zero begins with a zero. -/
def wholeDigits? (word : List Char) : Option (List Char) :=
  match digits? Numeral.isDigit word with
  | some ('0' :: _ :: _) => none
  | digits => digits

/-- Whether a word begins with a minus sign. -/
def isNegative (word : List Char) : Bool :=
  word.head? = some '-'

/-- The word without a sign. -/
def dropSign : List Char → List Char
  | '+' :: rest => rest
  | '-' :: rest => rest
  | word => word

/-! ### Whole numbers -/

/-- The number that digits in a base stand for. -/
def natural? (base : Nat) (isDigit : Char → Bool) (word : List Char) : Option Int :=
  (digits? isDigit word).map fun digits => (Numeral.value base digits : Int)

/-- The whole number that a word stands for, however large. -/
def anyInteger? : List Char → Option Int
  | '0' :: 'x' :: rest => natural? 16 Numeral.isHexDigit rest
  | '0' :: 'o' :: rest => natural? 8 isOctalDigit rest
  | '0' :: 'b' :: rest => natural? 2 isBinaryDigit rest
  | word =>
    (wholeDigits? (dropSign word)).map fun digits =>
      if isNegative word then -(Numeral.value 10 digits : Int) else (Numeral.value 10 digits : Int)

/-- The least number too large for 64 bits with a sign. -/
def integerLimit : Int := 0x8000000000000000

/-- The whole number of 64 bits that a word stands for. -/
def integer? (word : List Char) : Option Int :=
  match anyInteger? word with
  | some n => if -integerLimit ≤ n ∧ n < integerLimit then some n else none
  | none => none

/-! ### Floating-point numbers -/

/-- The least number that rounds to infinity, half a unit beyond the largest double: all bits from
number 970 to number 1023. -/
def doubleLimit : Nat :=
  1 <<< 1024 - 1 <<< 970

/-- Whether `m * 10 ^ e` is below the limit of the double format.  Numbers with up to 308 digits
before the point are, numbers with 310 are not, and only those between need the comparison. -/
def belowDoubleLimit (m : Nat) (e : Int) : Bool :=
  let size := (Numeral.decimal m).length + e
  if m = 0 ∨ size < 309 then true
  else if 309 < size then false
  else if 0 ≤ e then m * Nat.pow 10 e.toNat < doubleLimit
  else m < doubleLimit * Nat.pow 10 (-e).toNat

/-- The parts of a number around its first character that satisfies `p`; the second part is
`none` if there is no such character. -/
def splitOnce (p : Char → Bool) (word : List Char) : List Char × Option (List Char) :=
  let front := word.takeWhile fun c => !p c
  match word.dropWhile fun c => !p c with
  | [] => (front, none)
  | _ :: rest => (front, some rest)

/-- The exponent that a word stands for. -/
def exponent? (word : List Char) : Option Int :=
  (digits? Numeral.isDigit (dropSign word)).map fun digits =>
    if isNegative word then -(Numeral.value 10 digits : Int) else (Numeral.value 10 digits : Int)

/-- The value of an optional part of a number: `absent` if the part is missing. -/
def part? {α : Type} (absent : α) (read? : List Char → Option α) :
    Option (List Char) → Option α
  | none => some absent
  | some word => read? word

/-- Whether a word is a floating-point number in digits.  It has a fraction or an exponent. -/
def isDecimalFloat (word : List Char) : Bool :=
  let (mantissa, exponent) := splitOnce (fun c => c = 'e' || c = 'E') word
  let (whole, fraction) := splitOnce (· = '.') mantissa
  match wholeDigits? (dropSign whole), part? [] (digits? Numeral.isDigit) fraction,
      part? 0 exponent? exponent with
  | some front, some back, some e =>
    (fraction.isSome || exponent.isSome) &&
      (isNegative word || belowDoubleLimit (Numeral.value 10 (front ++ back)) (e - back.length))
  | _, _, _ => false

/-- Whether a word is a floating-point number. -/
def isFloat (word : List Char) : Bool :=
  dropSign word = ['i', 'n', 'f'] || dropSign word = ['n', 'a', 'n'] || isDecimalFloat word

end Toml
end NodeDiscovery
