/-
Character-strings: the pieces of the data of a TXT record.

In a message each string stands after an octet with its length, so it has at most 255 octets.  In
presentation format each string stands between quotes; a backslash takes the meaning from the
character after it, and a backslash with three decimal digits stands for the octet of that value.
-/
import SenderPolicy.Dns.Octets
import SenderPolicy.Text.Split
import SenderPolicy.Text.Utf8

namespace SenderPolicy.Dns.CharacterString

open Text

/-- The greatest number of octets of a character-string. -/
def maxLength : Nat := 255

/-- Cuts octets into character-strings that are as long as possible. -/
def chunks (bytes : List UInt8) : List (List UInt8) :=
  if bytes = [] then [] else bytes.take maxLength :: chunks (bytes.drop maxLength)
termination_by bytes.length
decreasing_by
  have : bytes.length ≠ 0 := by simpa using ‹¬bytes = []›
  simp [maxLength]; omega

/-- The octets of character-strings in a message. -/
def write : List (List UInt8) → Except WireError (List UInt8)
  | [] => .ok []
  | s :: rest =>
    if s.length > maxLength then .error .invalidAnswerSection
    else do return UInt8.ofNat s.length :: s ++ (← write rest)

/-- Reads octets that hold nothing but character-strings. -/
def read (bytes : List UInt8) : Except WireError (List (List UInt8)) :=
  match bytes with
  | [] => .ok []
  | n :: rest =>
    if rest.length < n.toNat then .error .invalidAnswerSection
    else do return rest.take n.toNat :: (← read (rest.drop n.toNat))
termination_by bytes.length
decreasing_by simp only [List.length_drop, List.length_cons]; omega

/-- The text of the octets of character-strings joined to one. -/
def join (strings : List (List UInt8)) : String := Utf8.decodeLossy strings.flatten

/-- Whether an octet is the code of a decimal digit. -/
def isDigit (b : UInt8) : Bool := 0x30 ≤ b && b ≤ 0x39

/-- The octet that three decimal digits stand for; a value above 255 stands for 255. -/
def decimal (a b c : UInt8) : UInt8 :=
  UInt8.ofNat (min 255 ((a.toNat - 48) * 100 + (b.toNat - 48) * 10 + (c.toNat - 48)))

/-- The octets of character-strings in presentation format, joined.  What stands outside quotes is
skipped.  A backslash before one or two digits only is skipped as well. -/
def unquote : (quoted : Bool) → List UInt8 → List UInt8
  | _, [] => []
  | quoted, b :: rest =>
    if b = 0x22 then unquote (!quoted) rest
    else if !quoted then unquote false rest
    else if b = 0x5C then
      match rest with
      | [] => []
      | d1 :: rest1 =>
        if isDigit d1 then
          match rest1 with
          | d2 :: d3 :: rest3 =>
            if isDigit d2 && isDigit d3 then decimal d1 d2 d3 :: unquote true rest3
            else d1 :: unquote true (d2 :: d3 :: rest3)
          | rest1 => d1 :: unquote true rest1
        else d1 :: unquote true rest1
    else b :: unquote true rest

/-- The text of a TXT record in presentation format.  A text without a quote at its start is not in
that format and is taken as it is. -/
def ofPresentation (data : String) : String :=
  let data := trim data
  match data.toList with
  | '"' :: _ => Utf8.decodeLossy (unquote false (Utf8.encode data))
  | _ => data

end SenderPolicy.Dns.CharacterString
