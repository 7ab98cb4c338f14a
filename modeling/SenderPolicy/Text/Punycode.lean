/-
Texts as ASCII letters, digits and hyphens.

The characters of a text are put into an ASCII text one after the other, in the order of their code
points and then of their places.  The ASCII characters come first and are written as they are; if
there are any, a hyphen follows them.  Each other character is given by a number: how many steps lie
between it and the one before, counting every place for every code point.  Numbers are written with
the lowest digit first, and thresholds mark the last digit.  The thresholds follow the size of
the numbers written before.
-/
namespace SenderPolicy.Text.Punycode

/-- How many digits there are. -/
def base : Nat := 36

/-- The threshold of the digit with the given weight number, counted in steps of `base`. -/
def threshold (bias k : Nat) : Nat := min 26 (max 1 (k - bias))

theorem threshold_pos (bias k : Nat) : 0 < threshold bias k := by
  unfold threshold
  omega

/-- Divides a number by 35 until it is small.  The result is the number, with `base` for each
division added to the second argument. -/
def scaleDown (delta k : Nat) : Nat × Nat :=
  if delta > 455 then scaleDown (delta / 35) (k + base) else (delta, k)
termination_by delta
decreasing_by omega

/-- The bias after a number.  It depends on how many characters there are then, and on whether the
number was the first one. -/
def adapt (delta count : Nat) (isFirst : Bool) : Nat :=
  let delta := if isFirst then delta / 700 else delta / 2
  let (delta, k) := scaleDown (delta + delta / count) 0
  k + base * delta / (delta + 38)

/-- The bias before the first number. -/
def firstBias : Nat := 72

/-- The code point below which all characters are written as they are. -/
def firstCode : Nat := 0x80

/-- A digit: a letter, or a decimal digit from 26 on. -/
def digit (n : Nat) : Char := if n < 26 then Char.ofNat (97 + n) else Char.ofNat (22 + n)

/-- The value of a digit in either case. -/
def digitValue? (c : Char) : Option Nat :=
  if '0' ≤ c ∧ c ≤ '9' then some (c.toNat - 22)
  else if 'a' ≤ c ∧ c ≤ 'z' then some (c.toNat - 97)
  else if 'A' ≤ c ∧ c ≤ 'Z' then some (c.toNat - 65)
  else none

/-- The digits of a number. -/
def digits (bias k n : Nat) : List Char :=
  let t := threshold bias k
  if n < t then [digit n]
  else digit (t + (n - t) % (base - t)) :: digits bias (k + base) ((n - t) / (base - t))
termination_by n
decreasing_by
  have h := threshold_pos bias k
  have := Nat.div_le_self (n - threshold bias k) (base - threshold bias k)
  omega

/-- What encoding has done so far. -/
structure Encoding where
  /-- The numbers that were written. -/
  written : List Char := []
  /-- The steps since the last number. -/
  delta : Nat := 0
  bias : Nat := firstBias
  /-- How many characters are done. -/
  count : Nat

namespace Encoding

/-- Passes a place of the text while the given code point is looked for. -/
def pass (basic code : Nat) (e : Encoding) (c : Char) : Encoding :=
  if c.toNat < code then { e with delta := e.delta + 1 }
  else if c.toNat = code then
    { written := e.written ++ digits e.bias base e.delta
      delta := 0
      bias := adapt e.delta (e.count + 1) (e.count == basic)
      count := e.count + 1 }
  else e

/-- Writes all characters of a text with the given code points, which are in ascending order.  All
below `next` are done. -/
def run (text : List Char) (basic next : Nat) (e : Encoding) : List Nat → Encoding
  | [] => e
  | code :: codes =>
    let e := { e with delta := e.delta + (code - next) * (e.count + 1) }
    let e := text.foldl (pass basic code) e
    run text basic (code + 1) { e with delta := e.delta + 1 } codes

end Encoding

/-- The encoding of a text. -/
def encode (text : List Char) : List Char :=
  let basic := text.filter fun c => c.toNat < firstCode
  let codes := ((text.map Char.toNat).filter (firstCode ≤ ·)).mergeSort.eraseDups
  let e := Encoding.run text basic.length firstCode { count := basic.length } codes
  (if basic.isEmpty then [] else basic ++ ['-']) ++ e.written

/-- A character as the decoder puts it in. -/
def charOfCode? (n : Nat) : Option Char :=
  if h : n.isValidChar then some (Char.ofNatAux n h) else none

/-- Reads a number onto `i`; the digit to be read has the given weight.  Numbers and weights stay
below `2 ^ 32`. -/
def number? (bias : Nat) (k weight i : Nat) : List Char → Option (Nat × List Char)
  | [] => none
  | c :: rest =>
    match digitValue? c with
    | none => none
    | some d =>
      let i := i + d * weight
      let t := threshold bias k
      if i ≥ UInt32.size then none
      else if d < t then some (i, rest)
      else if weight * (base - t) ≥ UInt32.size then none
      else number? bias (k + base) (weight * (base - t)) i rest

/-- Reading a number takes at least one digit. -/
theorem length_of_number? {bias k weight i n : Nat} {s rest : List Char}
    (h : number? bias k weight i s = some (n, rest)) : rest.length < s.length := by
  induction s generalizing k weight i with
  | nil => simp [number?] at h
  | cons c s ih =>
    unfold number? at h
    split at h
    · simp at h
    · dsimp only at h
      split at h
      · simp at h
      · split at h
        · simp only [Option.some.injEq, Prod.mk.injEq] at h
          simp [← h.2]
        · split at h
          · simp at h
          · have := ih h
            simp only [List.length_cons]
            omega

/-- Puts the characters that numbers give into a text.  The last one had the given code point, and
counting goes on at the given place. -/
def putIn (text : List Char) (bias code place : Nat) (s : List Char) : Option (List Char) :=
  if s.isEmpty then some text
  else
    match _ : number? bias base 1 place s with
    | none => none
    | some (i, rest) =>
      let count := text.length + 1
      let code := code + i / count
      match charOfCode? code with
      | none => none
      | some c =>
        putIn (text.insertIdx (i % count) c) (adapt (i - place) count (place == 0)) code
          (i % count + 1) rest
termination_by s.length
decreasing_by exact length_of_number? (by assumption)

/-- The text of an encoding, in which capital letters count as small ones. -/
def decode? (s : List Char) : Option (List Char) :=
  match s.reverse.span (· != '-') with
  | (numbers, []) => putIn [] firstBias firstCode 0 numbers.reverse
  | (_, [_]) => none
  | (numbers, _ :: basic) =>
    putIn (basic.reverse.map Char.toLower) firstBias firstCode 0 numbers.reverse

end SenderPolicy.Text.Punycode
