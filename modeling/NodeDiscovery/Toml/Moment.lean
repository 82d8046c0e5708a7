import NodeDiscovery.Codec.Numeral

/-!
# Dates and times in TOML

A moment is a date, a time of day, or both with an optional offset from universal time.  Dates
are those of the Gregorian calendar; a minute may have a leap second.

## Main definitions

* `isDate`, `isTime`, `isOffsetTime` — the parts.
* `isMoment` — whether a word is a date, a time or both.
-/

namespace NodeDiscovery
namespace Toml

/-- Whether characters are decimal digits of a number from `first` to `last`. -/
def isBetween (first last : Nat) (digits : List Char) : Bool :=
  digits.all Numeral.isDigit && first ≤ Numeral.value 10 digits &&
    Numeral.value 10 digits ≤ last

/-- Whether a year has a leap day. -/
def isLeapYear (year : Nat) : Bool :=
  year % 4 = 0 && (year % 100 ≠ 0 || year % 400 = 0)

/-- The number of days of a month. -/
def daysInMonth (year month : Nat) : Nat :=
  if month = 2 then (if isLeapYear year then 29 else 28)
  else if month = 4 ∨ month = 6 ∨ month = 9 ∨ month = 11 then 30
  else 31

/-- Whether a word is a date: year, month and day. -/
def isDate : List Char → Bool
  | [y, y', y'', y''', '-', m, m', '-', d, d'] =>
    let year := [y, y', y'', y''']
    let month := [m, m']
    isBetween 0 9999 year && isBetween 1 12 month &&
      isBetween 1 (daysInMonth (Numeral.value 10 year) (Numeral.value 10 month)) [d, d']
  | _ => false

/-- Whether what follows the seconds is a fraction of them or nothing. -/
def isFraction : List Char → Bool
  | [] => true
  | '.' :: digits => digits ≠ [] && digits.all Numeral.isDigit
  | _ => false

/-- Whether a word is a time of day: hour, minute and second. -/
def isTime : List Char → Bool
  | h :: h' :: ':' :: m :: m' :: ':' :: s :: s' :: fraction =>
    isBetween 0 23 [h, h'] && isBetween 0 59 [m, m'] && isBetween 0 60 [s, s'] &&
      isFraction fraction
  | _ => false

/-- Whether a word is an offset from universal time, or nothing for an unknown offset. -/
def isOffset : List Char → Bool
  | [] => true
  | ['Z'] => true
  | ['z'] => true
  | [sign, h, h', ':', m, m'] =>
    (sign = '+' || sign = '-') && isBetween 0 23 [h, h'] && isBetween 0 59 [m, m']
  | _ => false

/-- Whether a character begins an offset. -/
def beginsOffset (c : Char) : Bool :=
  c = 'Z' || c = 'z' || c = '+' || c = '-'

/-- Whether a word is a time of day with an optional offset. -/
def isOffsetTime (word : List Char) : Bool :=
  isTime (word.takeWhile fun c => !beginsOffset c) &&
    isOffset (word.dropWhile fun c => !beginsOffset c)

/-- Whether a word is a date with a time behind it. -/
def isDateTime (word : List Char) : Bool :=
  isDate (word.take 10) &&
    match word.drop 10 with
    | 'T' :: time => isOffsetTime time
    | 't' :: time => isOffsetTime time
    | _ => false

/-- Whether a word is a moment. -/
def isMoment (word : List Char) : Bool :=
  isDate word || isTime word || isDateTime word

end Toml
end NodeDiscovery
