/-
UTF-8.

`encode` writes the characters of a string as bytes.  Reading goes through `pieces`, which cuts a
byte string into characters and malformed pieces; a malformed piece is the longest start of a
character that the following byte does not continue, or a single byte that starts none.  The
strict reader `decode?` refuses a malformed piece and the lenient reader `decodeLossy` puts the
replacement character in its place.
-/
namespace SenderPolicy.Text.Utf8

/-- The bytes of a string. -/
def encode (s : String) : List UInt8 :=
  s.toList.flatMap String.utf8EncodeChar

/-- A byte that continues a character. -/
def isTail (b : UInt8) : Bool := 0x80 ≤ b && b ≤ 0xBF

/-- The bytes that may follow `a`, the first byte of a character of three bytes: they exclude the
overlong forms and the surrogates. -/
def isSecondOfThree (a b : UInt8) : Bool :=
  if a == 0xE0 then 0xA0 ≤ b && b ≤ 0xBF
  else if a == 0xED then 0x80 ≤ b && b ≤ 0x9F
  else isTail b

/-- The bytes that may follow `a`, the first byte of a character of four bytes: they exclude the
overlong forms and the code points that do not exist. -/
def isSecondOfFour (a b : UInt8) : Bool :=
  if a == 0xF0 then 0x90 ≤ b && b ≤ 0xBF
  else if a == 0xF4 then 0x80 ≤ b && b ≤ 0x8F
  else isTail b

/-- The six bits that a continuing byte carries. -/
def tailBits (b : UInt8) : Nat := b.toNat % 64

/-- The character of two bytes. -/
def char2 (a b : UInt8) : Char :=
  Char.ofNat (a.toNat % 32 * 64 + tailBits b)

/-- The character of three bytes. -/
def char3 (a b c : UInt8) : Char :=
  Char.ofNat (a.toNat % 16 * 4096 + tailBits b * 64 + tailBits c)

/-- The character of four bytes. -/
def char4 (a b c d : UInt8) : Char :=
  Char.ofNat (a.toNat % 8 * 262144 + tailBits b * 4096 + tailBits c * 64 + tailBits d)

/-- The characters of a byte string in order, with `none` for each malformed piece. -/
def pieces : List UInt8 → List (Option Char)
  | [] => []
  | a :: r1 =>
    if a < 0x80 then some (Char.ofNat a.toNat) :: pieces r1
    else if 0xC2 ≤ a && a ≤ 0xDF then
      match r1 with
      | [] => [none]
      | b :: r2 => if isTail b then some (char2 a b) :: pieces r2 else none :: pieces (b :: r2)
    else if 0xE0 ≤ a && a ≤ 0xEF then
      match r1 with
      | [] => [none]
      | b :: r2 =>
        if isSecondOfThree a b then
          match r2 with
          | [] => [none]
          | c :: r3 =>
            if isTail c then some (char3 a b c) :: pieces r3 else none :: pieces (c :: r3)
        else none :: pieces (b :: r2)
    else if 0xF0 ≤ a && a ≤ 0xF4 then
      match r1 with
      | [] => [none]
      | b :: r2 =>
        if isSecondOfFour a b then
          match r2 with
          | [] => [none]
          | c :: r3 =>
            if isTail c then
              match r3 with
              | [] => [none]
              | d :: r4 =>
                if isTail d then some (char4 a b c d) :: pieces r4 else none :: pieces (d :: r4)
            else none :: pieces (c :: r3)
        else none :: pieces (b :: r2)
    else none :: pieces r1

/-- The string that a byte string encodes, if it is well formed. -/
def decode? (bytes : List UInt8) : Option String :=
  ((pieces bytes).mapM id).map String.ofList

/-- The string of a byte string, with the replacement character for each malformed piece. -/
def decodeLossy (bytes : List UInt8) : String :=
  String.ofList ((pieces bytes).map fun piece => piece.getD '\uFFFD')

end SenderPolicy.Text.Utf8
