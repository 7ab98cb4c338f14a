/-
TOML values that are written without quotes or brackets: integers, fractions, truth values and
times.

The digits of a number may have single underscores between them.  An integer may be written in
decimal, without a zero in front, or in hexadecimal, octal or binary digits, and must fit into 64
bits with a sign.
-/
import SenderPolicy.Text.Split
import SenderPolicy.Text.Hex
import SenderPolicy.Toml.Basic

namespace SenderPolicy.Toml.Scalar

open Text

/-- Digits without the underscores between them. -/
def digits? (isDigit : Char → Bool) (s : List Char) : Option (List Char) :=
  let groups := split (· == '_') s
  if groups.all fun g => !g.isEmpty && g.all isDigit then some groups.flatten else none

/-- The value of digits in a base. -/
def valueOf (base : Nat) (digits : List Char) : Nat :=
  digits.foldl (fun n c => n * base + (Hex.value? c).getD 0) 0

/-- Reads an optional sign, which is negative or not. -/
def sign : List Char → Bool × List Char
  | '-' :: rest => (true, rest)
  | '+' :: rest => (false, rest)
  | s => (false, s)

/-- The digits of a decimal number without a zero in front. -/
def decimal? (s : List Char) : Option (List Char) := do
  let digits ← digits? Char.isDigit s
  if digits.length > 1 ∧ digits.head? = some '0' then none else some digits

/-- Whether a character is a digit in a base of at most sixteen. -/
def isDigitIn (base : Nat) (c : Char) : Bool := (Hex.value? c).any (· < base)

/-- Reads a natural number in digits of the given base. -/
def based? (base : Nat) (s : List Char) : Option Int :=
  (digits? (isDigitIn base) s).map fun digits => (valueOf base digits : Int)

/-- Reads an integer of any size. -/
def anyInteger? : List Char → Option Int
  | '0' :: 'x' :: rest => based? 16 rest
  | '0' :: 'o' :: rest => based? 8 rest
  | '0' :: 'b' :: rest => based? 2 rest
  | s =>
    let (negative, rest) := sign s
    (decimal? rest).map fun digits =>
      let n : Int := valueOf 10 digits
      if negative then -n else n

/-- Reads an integer. -/
def integer? (s : List Char) : Option Int := do
  let n ← anyInteger? s
  if Int64.minValue.toInt ≤ n ∧ n ≤ Int64.maxValue.toInt then some n else none

/-- Reads an exponent. -/
def exponent? (s : List Char) : Option Int :=
  let (negative, rest) := sign s
  (digits? Char.isDigit rest).map fun digits =>
    let n : Int := valueOf 10 digits
    if negative then -n else n

/-- The part of a text after a mark, read by `read?`.  A text without a mark has no such part, which
is given as `absent`. -/
def afterMark? {α : Type} (isMark : Char → Bool) (read? : List Char → Option α) (absent : α)
    (s : List Char) : Option α :=
  match s.dropWhile fun c => !isMark c with
  | [] => some absent
  | _ :: part => read? part

/-- Reads the digits and the power of ten of a number with a point or an exponent. -/
def fraction? (s : List Char) : Option (List Char × Int) := do
  let isExponentMark (c : Char) : Bool := c == 'e' || c == 'E'
  let mantissa := s.takeWhile fun c => !isExponentMark c
  let exponent ← afterMark? isExponentMark exponent? 0 s
  let whole ← decimal? (mantissa.takeWhile (· != '.'))
  let places ← afterMark? (· == '.') (digits? Char.isDigit) [] mantissa
  if mantissa.length = s.length ∧ places = [] then none
  else return (whole ++ places, exponent - places.length)

/-- The least number that is nearer to infinity than to a binary floating-point number of 64
bits. -/
def infinite : Nat := Nat.pow 2 1024 - Nat.pow 2 970

/-- Whether digits with a power of ten make a number that is too large for 64 bits.  The first two
cases are those in which the number of digits decides. -/
def isInfinite (digits : List Char) (power : Int) : Bool :=
  let digits := digits.dropWhile (· == '0')
  let top := digits.length + power
  if digits = [] ∨ top ≤ 308 then false
  else if top > 310 then true
  else
    valueOf 10 digits * Nat.pow 10 power.toNat ≥ infinite * Nat.pow 10 (-power).toNat

/-- Whether a text is a number with a point or an exponent.  Too large a number is none, unless it
is negative. -/
def isFraction (s : List Char) : Bool :=
  let (negative, s) := sign s
  (fraction? s).any fun (digits, power) => negative || !isInfinite digits power

/-- Whether a text is infinity or no number. -/
def isSpecial (s : List Char) : Bool :=
  let s := (sign s).2
  s == ['i', 'n', 'f'] || s == ['n', 'a', 'n']

/-- Reads two digits of a number that is at most the bound. -/
def two? (least most : Nat) : List Char → Option (List Char)
  | a :: b :: rest =>
    let n := valueOf 10 [a, b]
    if a.isDigit ∧ b.isDigit ∧ least ≤ n ∧ n ≤ most then some rest else none
  | _ => none

/-- The text after a character. -/
def after? (c : Char) : List Char → Option (List Char)
  | d :: rest => if c = d then some rest else none
  | [] => none

/-- The number of days in a month. -/
def daysIn (year month : Nat) : Nat :=
  if month = 2 then
    if year % 4 = 0 ∧ (year % 100 ≠ 0 ∨ year % 400 = 0) then 29 else 28
  else if [4, 6, 9, 11].contains month then 30
  else 31

/-- The text after a date. -/
def afterDate? (s : List Char) : Option (List Char) := do
  let year := s.take 4
  if year.length = 4 ∧ year.all Char.isDigit then
    let month ← after? '-' (s.drop 4)
    let day ← after? '-' (← two? 1 12 month)
    two? 1 (daysIn (valueOf 10 year) (valueOf 10 (month.take 2))) day
  else none

/-- The text after the time of a day. -/
def afterTime? (s : List Char) : Option (List Char) := do
  let s ← after? ':' (← two? 0 23 s)
  let s ← after? ':' (← two? 0 59 s)
  match ← two? 0 60 s with
  | '.' :: rest =>
    if (rest.head?).any Char.isDigit then some (rest.dropWhile Char.isDigit) else none
  | rest => some rest

/-- Whether a text is a distance from universal time. -/
def isOffset (s : List Char) : Bool :=
  match s with
  | ['Z'] | ['z'] => true
  | c :: rest =>
    (c == '+' || c == '-') &&
      (((two? 0 23 rest).bind (after? ':')).bind (two? 0 59)).any List.isEmpty
  | [] => false

/-- Whether a text is the time of a day, with or without an offset. -/
def isTime (mayHaveOffset : Bool) (s : List Char) : Bool :=
  (afterTime? s).any fun rest => rest.isEmpty || (mayHaveOffset && isOffset rest)

/-- Whether a text is a date. -/
def isDate (s : List Char) : Bool := (afterDate? s).any List.isEmpty

/-- Whether a text is a date with a time after the letter T. -/
def isDateTime (s : List Char) : Bool :=
  match afterDate? s with
  | some (c :: rest) => (c == 'T' || c == 't') && isTime true rest
  | _ => false

/-- The characters of the words that are read here. -/
def isWordChar (c : Char) : Bool := c.isAlphanum || ['+', '-', '.', '_', ':'].contains c

/-- The value of a word. -/
def ofWord? (word : List Char) : Option Toml :=
  match integer? word with
  | some n => some (.integer n)
  | none =>
    if word == "true".toList || word == "false".toList || isFraction word || isSpecial word ||
        isDate word || isTime false word || isDateTime word then some .other
    else none

/-- Reads a value.  A date and a time may have a blank between them. -/
def read? (s : List Char) : Option (Toml × List Char) :=
  let word := s.takeWhile isWordChar
  let rest := s.dropWhile isWordChar
  match rest with
  | ' ' :: next =>
    if isDate word && isTime true (next.takeWhile isWordChar) then
      some (.other, next.dropWhile isWordChar)
    else (ofWord? word).map fun v => (v, rest)
  | _ => (ofWord? word).map fun v => (v, rest)

end SenderPolicy.Toml.Scalar
