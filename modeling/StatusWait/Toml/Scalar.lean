/-!
# Bare values of TOML

Which bare runs are values: truth values, integers, floating-point numbers, dates and
times.

## The model

Nothing here computes with such a value, so the grammar is all there is: `isScalar`
says whether a text is one. A number has to be representable, an integer in 128 bits,
with a sign or without, and a float in 64; a float too great for that is refused, one
too small is zero. A date has to be in the calendar. Seconds may be left out of a time.
-/

namespace StatusWait.Toml.Scalar

/-! ### Digits -/

/-- The digits of a run in which single underscores may stand between two digits;
`behindDigit` says whether a digit stands in front of the run. -/
def digitsFrom (isDigit : Char → Bool) (behindDigit : Bool) : List Char → Option (List Char)
  | [] => if behindDigit then some [] else none
  | c :: cs =>
      if isDigit c then (c :: ·) <$> digitsFrom isDigit true cs
      else if c = '_' && behindDigit then digitsFrom isDigit false cs
      else none

/-- The digits of a run that has at least one. -/
def digits? (isDigit : Char → Bool) (cs : List Char) : Option (List Char) := digitsFrom isDigit false cs

/-- The digits of a decimal number, which has no zero in front. -/
def decimal? (cs : List Char) : Option (List Char) :=
  match digits? Char.isDigit cs with
  | some ('0' :: _ :: _) => none
  | ds => ds

/-- The value of a digit. -/
def digitValue (c : Char) : Nat :=
  if c.isDigit then c.toNat - '0'.toNat else (c.toNat - 'A'.toNat) % 32 + 10

/-- The value of a row of digits. -/
def valueOf (base : Nat) (ds : List Char) : Nat := ds.foldl (fun n c => n * base + digitValue c) 0

/-- A hexadecimal digit of either case. -/
def isHexDigit (c : Char) : Bool := c.isDigit || ('a' ≤ c && c ≤ 'f') || ('A' ≤ c && c ≤ 'F')

/-- An octal digit. -/
def isOctalDigit (c : Char) : Bool := '0' ≤ c && c ≤ '7'

/-- A binary digit. -/
def isBinaryDigit (c : Char) : Bool := c = '0' || c = '1'

/-- A number without its sign. -/
def unsigned : List Char → List Char
  | '+' :: cs => cs
  | '-' :: cs => cs
  | cs => cs

/-! ### Integers -/

/-- The row of digits has a value of at most `limit`. -/
def isAtMost (limit base : Nat) : Option (List Char) → Bool
  | some ds => valueOf base ds ≤ limit
  | none => false

/-- The greatest number of 128 bits. -/
def wordMax : Nat := Nat.pow 2 128 - 1

/-- The greatest number whose negative 128 bits with a sign can hold. -/
def signMax : Nat := Nat.pow 2 127

/-- An integer that 128 bits can hold. -/
def isInteger : List Char → Bool
  | '0' :: 'x' :: cs => isAtMost wordMax 16 (digits? isHexDigit cs)
  | '0' :: 'o' :: cs => isAtMost wordMax 8 (digits? isOctalDigit cs)
  | '0' :: 'b' :: cs => isAtMost wordMax 2 (digits? isBinaryDigit cs)
  | '-' :: cs => isAtMost signMax 10 (decimal? cs)
  | '+' :: cs => isAtMost wordMax 10 (decimal? cs)
  | cs => isAtMost wordMax 10 (decimal? cs)

/-! ### Floats -/

/-- The least number that rounds to no finite 64-bit float: half a step above the
greatest one. -/
def floatLimit : Nat := Nat.pow 2 1024 - Nat.pow 2 970

/-- The number of the given digits, times ten to the power `e`, rounds to a finite 64-bit
float. Far from the limit the count of digits decides. -/
def isFinite (ds : List Char) (e : Int) : Bool :=
  let significant := ds.dropWhile (· = '0')
  let magnitude : Int := significant.length + e
  if significant = [] || magnitude < 300 then true
  else if magnitude > 320 then false
  else if 0 ≤ e then decide (valueOf 10 ds * Nat.pow 10 e.toNat < floatLimit)
  else decide (valueOf 10 ds < floatLimit * Nat.pow 10 (-e).toNat)

/-- The exponent behind its mark. -/
def exponent? (cs : List Char) : Option Int :=
  match cs with
  | '-' :: r => (fun ds => -(valueOf 10 ds : Int)) <$> digits? Char.isDigit r
  | '+' :: r => (fun ds => (valueOf 10 ds : Int)) <$> digits? Char.isDigit r
  | r => (fun ds => (valueOf 10 ds : Int)) <$> digits? Char.isDigit r

/-- The mark of an exponent. -/
def isMark (c : Char) : Bool := c = 'e' || c = 'E'

/-- The digits before the point, those behind it and the exponent of a float, which has
the point or the mark of the exponent or both. -/
def floatParts? (cs : List Char) : Option (List Char × List Char × Int) := do
  let whole ← decimal? (cs.takeWhile fun c => !(c = '.' || isMark c))
  match cs.dropWhile fun c => !(c = '.' || isMark c) with
  | '.' :: r =>
      let fraction ← digits? Char.isDigit (r.takeWhile fun c => !isMark c)
      match r.dropWhile fun c => !isMark c with
      | [] => return (whole, fraction, 0)
      | _ :: r' => return (whole, fraction, ← exponent? r')
  | _ :: r => return (whole, [], ← exponent? r)
  | [] => none

/-- A float that 64 bits can hold, infinity, or no number. -/
def isFloat (cs : List Char) : Bool :=
  let r := unsigned cs
  r = ['i', 'n', 'f'] || r = ['n', 'a', 'n'] ||
    match floatParts? r with
    | some (whole, fraction, e) => isFinite (whole ++ fraction) (e - fraction.length)
    | none => false

/-! ### Dates and times -/

/-- The value of two digits. -/
def pair? (a b : Char) : Option Nat :=
  if a.isDigit && b.isDigit then some (valueOf 10 [a, b]) else none

/-- How many days a month has. -/
def daysIn (year month : Nat) : Nat :=
  if month = 2 then
    if year % 4 = 0 && (year % 100 != 0 || year % 400 = 0) then 29 else 28
  else if month = 4 || month = 6 || month = 9 || month = 11 then 30
  else 31

/-- What follows a date at the beginning of a text. -/
def afterDate? : List Char → Option (List Char)
  | y₁ :: y₂ :: y₃ :: y₄ :: '-' :: m₁ :: m₂ :: '-' :: d₁ :: d₂ :: rest => do
      let century ← pair? y₁ y₂
      let decade ← pair? y₃ y₄
      let month ← pair? m₁ m₂
      let day ← pair? d₁ d₂
      if 1 ≤ month && month ≤ 12 && 1 ≤ day && day ≤ daysIn (century * 100 + decade) month then
        some rest
      else none
  | _ => none

/-- A date and nothing else. -/
def isDate (cs : List Char) : Bool := afterDate? cs = some []

/-- What follows hours and minutes with `:` between them. -/
def afterMinutes? : List Char → Option (List Char)
  | h₁ :: h₂ :: ':' :: m₁ :: m₂ :: rest => do
      let hour ← pair? h₁ h₂
      let minute ← pair? m₁ m₂
      if hour ≤ 23 && minute ≤ 59 then some rest else none
  | _ => none

/-- What follows the fraction of a second, if there is one. -/
def afterFraction? : List Char → Option (List Char)
  | '.' :: d :: rest => if d.isDigit then some (rest.dropWhile Char.isDigit) else none
  | ['.'] => none
  | rest => some rest

/-- What follows a time at the beginning of a text. A minute may have a second 60. -/
def afterTime? (cs : List Char) : Option (List Char) := do
  match ← afterMinutes? cs with
  | ':' :: s₁ :: s₂ :: rest =>
      let second ← pair? s₁ s₂
      if second ≤ 60 then afterFraction? rest else none
  | rest => some rest

/-- An offset from universal time. -/
def isOffset : List Char → Bool
  | ['Z'] | ['z'] => true
  | '+' :: cs | '-' :: cs => afterMinutes? cs = some []
  | _ => false

/-- A date, a time, or a date and a time with or without an offset. -/
def isDateTime (cs : List Char) : Bool :=
  match afterDate? cs with
  | some [] => true
  | some (c :: rest) =>
      (c = 'T' || c = 't' || c = ' ') &&
        match afterTime? rest with
        | some [] => true
        | some offset => isOffset offset
        | none => false
  | none => afterTime? cs = some []

/-! ### All of them -/

/-- A bare value. -/
def isScalar (cs : List Char) : Bool :=
  cs = ['t', 'r', 'u', 'e'] || cs = ['f', 'a', 'l', 's', 'e'] || isInteger cs || isFloat cs || isDateTime cs

end StatusWait.Toml.Scalar
