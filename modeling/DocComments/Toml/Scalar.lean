import DocComments.Text.Blank

set_option autoImplicit false

/-!
# Numbers and dates in settings files

No setting is a number or a date, but a settings file may have such values under names that are not
settings, and has to be well formed all the same. Integers have at most 128 bits, and a number with a
fraction or an exponent has to be below the largest double.

## Main definitions

* `isInteger`, `isFloat` — the forms of numbers.
* `isDateTime` — the forms of dates and times.
* `isScalar` — all of them.
-/

namespace DocComments.Toml

/-! ## Numbers -/

/-- The digits of a number; single underscores may stand between two of them. -/
def digits? (isDigit : Char → Bool) : List Char → Option (List Char)
  | [] => none
  | [c] => if isDigit c then some [c] else none
  | c :: d :: rest =>
    if !isDigit c then none
    else if d == '_' then (digits? isDigit rest).map (c :: ·)
    else (digits? isDigit (d :: rest)).map (c :: ·)

/-- The value of a digit in any base up to sixteen. -/
def digitValue (c : Char) : Nat :=
  if Text.isAsciiDigit c then c.toNat - '0'.toNat else (c.toNat - 'A'.toNat) % 32 + 10

/-- The value of digits in a base. -/
def numberOf (base : Nat) (digits : List Char) : Nat :=
  digits.foldl (fun n c => n * base + digitValue c) 0

/-- The digits of a base up to sixteen. -/
def isDigitOf (base : Nat) (c : Char) : Bool :=
  (Text.isAsciiDigit c || ('a' ≤ c && c ≤ 'f') || ('A' ≤ c && c ≤ 'F')) && digitValue c < base

/-- Whether there is a minus sign, and what follows the sign. -/
def splitSign : List Char → Bool × List Char
  | '+' :: rest => (false, rest)
  | '-' :: rest => (true, rest)
  | text => (false, text)

/-- Decimal digits without a zero in front. -/
def decimalDigits? (text : List Char) : Option (List Char) :=
  match digits? (isDigitOf 10) text with
  | some ('0' :: _ :: _) => none
  | digits => digits

/-- Digits of a base other than ten, below the largest integer. -/
def isBasedInteger (base : Nat) (text : List Char) : Bool :=
  (digits? (isDigitOf base) text).any fun digits => numberOf base digits < Nat.pow 2 128

/-- An integer, in base ten with an optional sign, or in base sixteen, eight or two. -/
def isInteger (text : List Char) : Bool :=
  match text with
  | '0' :: 'x' :: rest => isBasedInteger 16 rest
  | '0' :: 'o' :: rest => isBasedInteger 8 rest
  | '0' :: 'b' :: rest => isBasedInteger 2 rest
  | _ =>
    let (negative, rest) := splitSign text
    (decimalDigits? rest).any fun digits =>
      let n := numberOf 10 digits
      if negative then n ≤ Nat.pow 2 127 else n < Nat.pow 2 128

/-- The digits of a fraction after the point, none if there is no point, and the rest. -/
def fraction? (text : List Char) : Option (List Char × List Char) :=
  match text with
  | '.' :: rest =>
    let (part, rest) := rest.span fun c => c != 'e' && c != 'E'
    (digits? (isDigitOf 10) part).map fun digits => (digits, rest)
  | _ => some ([], text)

/-- The value of an exponent, zero if there is none. -/
def exponent? (text : List Char) : Option Int :=
  match text with
  | [] => some 0
  | c :: rest =>
    if c != 'e' && c != 'E' then none
    else
      let (negative, rest) := splitSign rest
      (digits? (isDigitOf 10) rest).map fun digits =>
        let n : Int := numberOf 10 digits
        if negative then -n else n

/-- The least number that is rounded to a double beyond the largest one. -/
def doubleLimit : Nat :=
  Nat.pow 2 1024 - Nat.pow 2 970

/-- The number that is written with the given digits and a power of ten is below the limit. -/
def isBelowLimit (digits : List Char) (exponent : Int) : Bool :=
  let digits := digits.dropWhile (· == '0')
  let magnitude := (digits.length : Int) + exponent
  if digits.isEmpty || magnitude < 309 then true
  else if magnitude > 309 then false
  else if exponent < 0 then numberOf 10 digits < doubleLimit * Nat.pow 10 exponent.natAbs
  else numberOf 10 digits * Nat.pow 10 exponent.natAbs < doubleLimit

/-- A number with a fraction or an exponent, or one that is infinite or none. -/
def isFloat (text : List Char) : Bool :=
  let rest := (splitSign text).2
  if rest == ['i', 'n', 'f'] || rest == ['n', 'a', 'n'] then true
  else
    let (whole, rest) := rest.span fun c => c != '.' && c != 'e' && c != 'E'
    if rest.isEmpty then false
    else
      match decimalDigits? whole, fraction? rest with
      | some whole, some (fraction, rest) =>
        match exponent? rest with
        | some e => isBelowLimit (whole ++ fraction) (e - fraction.length)
        | none => false
      | _, _ => false

/-! ## Dates and times -/

/-- The value of so many digits at the start of a text, with what follows them. -/
def field? (count : Nat) (text : List Char) : Option (Nat × List Char) :=
  let digits := text.take count
  if digits.length == count && digits.all Text.isAsciiDigit then
    some (numberOf 10 digits, text.drop count)
  else none

/-- What follows a character at the start of a text. -/
def after? (c : Char) : List Char → Option (List Char)
  | [] => none
  | d :: rest => if d == c then some rest else none

/-- The number of days of a month. -/
def daysIn (year month : Nat) : Nat :=
  if month == 2 then
    if year % 4 == 0 && (year % 100 != 0 || year % 400 == 0) then 29 else 28
  else if month == 4 || month == 6 || month == 9 || month == 11 then 30
  else 31

/-- What follows a date. -/
def date? (text : List Char) : Option (List Char) := do
  let (year, rest) ← field? 4 text
  let (month, rest) ← after? '-' rest >>= field? 2
  let (day, rest) ← after? '-' rest >>= field? 2
  if 1 ≤ month && month ≤ 12 && 1 ≤ day && day ≤ daysIn year month then some rest else none

/-- What follows an hour and a minute. -/
def clock? (text : List Char) : Option (List Char) := do
  let (hour, rest) ← field? 2 text
  let (minute, rest) ← after? ':' rest >>= field? 2
  if hour ≤ 23 && minute ≤ 59 then some rest else none

/-- What follows the optional fraction of a second. -/
def secondFraction? (text : List Char) : Option (List Char) :=
  match text with
  | '.' :: rest =>
    let (digits, rest) := rest.span Text.isAsciiDigit
    if digits.isEmpty then none else some rest
  | _ => some text

/-- What follows a time; the seconds may be missing. -/
def time? (text : List Char) : Option (List Char) := do
  let rest ← clock? text
  match rest with
  | ':' :: rest =>
    let (second, rest) ← field? 2 rest
    if second ≤ 60 then secondFraction? rest else none
  | _ => some rest

/-- The offset of a time zone. -/
def isOffset (text : List Char) : Bool :=
  match text with
  | ['Z'] | ['z'] => true
  | '+' :: rest | '-' :: rest => clock? rest == some []
  | _ => false

/-- A date, a time, or a date and a time with an optional offset. -/
def isDateTime (text : List Char) : Bool :=
  match date? text with
  | some [] => true
  | some (separator :: rest) =>
    (separator == 'T' || separator == 't' || separator == ' ') &&
      match time? rest with
      | some [] => true
      | some rest => isOffset rest
      | none => false
  | none => time? text == some []

/-- A number or a date. -/
def isScalar (text : List Char) : Bool :=
  isInteger text || isFloat text || isDateTime text

end DocComments.Toml
