/-
Labels in scripts that are written from right to left.

Where a name has a label with right-to-left characters, every label must have one direction
throughout, so that the name looks the same wherever it is shown.  A label has the direction of its
first character.  One from left to right has no right-to-left characters and ends in a letter or an
ordinary digit.  One from right to left has no letters of the other direction, not both kinds of
digits, and ends in a letter or a digit.  Marks at its end do not count.
-/
import SenderPolicy.Text.Mark

namespace SenderPolicy.Text

/-- What a character means for the direction of a text. -/
inductive BidiClass where
  /-- It is written from left to right. -/
  | left
  /-- It is written from right to left. -/
  | right
  | europeanNumber
  | arabicNumber
  /-- It is a mark and has the direction of the character in front of it. -/
  | mark
  /-- It has no direction of its own. -/
  | neutral
  deriving DecidableEq, Repr

namespace BidiClass

/-- The characters that are written from right to left. -/
def rightTable : CodeTable := .ofText
  "5BE-5F4 608 60B 60D 61B-64A 66D-6D5 6E5-6E6 6EE-6EF 6FA-7F5 7FA-8C9 FBB2-FBC2 FE73 10800-1091B
    10920-10B35 10B40-10D23 10D40-10D4F 10D6F-10D8F 10E80-10EC7 10F00-10FF6 1E800-1ED3D"

/-- The digits and signs of Arabic numbers. -/
def arabicTable : CodeTable := .ofText
  "660-669 66B-66C 10D30-10D39 10E60-10E7E"

/-- The digits of European numbers. -/
def europeanTable : CodeTable := .ofText
  "30-39 6F0-6F9 102E1-102FB"

/-- The separators and terminators of numbers, and the characters that have no direction. -/
def neutralTable : CodeTable := .ofText
  "21-2F 3A-60 7B-D7 F7 2B9-2BA 2C2-2CF 2D2-2ED 2EF-2FF 375 3F6 58A-58F 606-607 609-60A 60C 60E-60F
    66A 6DE 6E9 7F6-7F9 9F2-9F3 9FB AF1 BF3-BFA C78-C7E E3F F3A-F3D 1390-1399 1400 169B-169C 17DB
    17F0-180A 1940-1945 19DE-19FF 200C-214D 218A-2335 237B-2394 2396-26AB 26AD-27FF 2900-2BFF
    2CE5-2CEA 2CF9-2CFF 2E00-3004 3008-3020 3030 3037 303D-303F 30A0 30FB 31C0-31E5 4DC0-4DFF
    A490-A4C6 A60D-A60F A673-A67F A700-A721 A788 A828-A82B A838-A839 A874-A877 AB6A-AB6B FBC3-FE46
    10101 10140-1018C 10190-101A0 1091F 10B39-10B3F 10D6E 10ED0-10ED8 11052-11065 11660-1166C
    11FD5-11FF1 16FE2 1CC00-1CEF0 1D1E9-1D245 1D300-1D356 1E2FF 1EEF0-1F12F 1F16D-1F16F 1F1AD
    1F260-1FBFA"

/-- The nonspacing marks that have a direction of their own, from left to right. -/
def leftMarks : CodeTable := .ofText "CBF CC6 11A07-11A08 11C3F"

/-- Whether a character has the direction of the one in front of it.  One spacing mark does. -/
def isMark (c : Char) : Bool :=
  (Mark.isNonspacing c && !leftMarks.mentions c) || c.toNat == 0x1171E

/-- The class of a character that may stand in a name. -/
def ofChar (c : Char) : BidiClass :=
  if isMark c then mark
  else if leftMarks.mentions c then left
  else if rightTable.mentions c then right
  else if arabicTable.mentions c then arabicNumber
  else if europeanTable.mentions c then europeanNumber
  else if neutralTable.mentions c then neutral
  else left

/-- Whether a character of this class makes a name one with right-to-left characters. -/
def isRightToLeft : BidiClass → Bool
  | right | arabicNumber => true
  | _ => false

/-- Whether the characters after the first one of a label from left to right may have the given
classes. -/
def isLeftToRightRest (classes : List BidiClass) : Bool :=
  classes.all [left, europeanNumber, neutral, mark].contains &&
    classes.getLast?.all [left, europeanNumber].contains

/-- Whether the characters after the first one of a label from right to left may have the given
classes. -/
def isRightToLeftRest (classes : List BidiClass) : Bool :=
  classes.all [right, arabicNumber, europeanNumber, neutral, mark].contains &&
    classes.getLast?.all [right, arabicNumber, europeanNumber].contains &&
    !(classes.contains arabicNumber && classes.contains europeanNumber)

/-- Whether a label has one direction throughout. -/
def isUniform (label : List Char) : Bool :=
  match label with
  | [] => true
  | c :: rest =>
    let classes := ((rest.map ofChar).reverse.dropWhile (· == mark)).reverse
    match ofChar c with
    | left => isLeftToRightRest classes
    | right => isRightToLeftRest classes
    | _ => false

/-- Whether labels may stand in one name. -/
def agree (labels : List (List Char)) : Bool :=
  !(labels.any fun label => label.any fun c => (ofChar c).isRightToLeft) || labels.all isUniform

end BidiClass

end SenderPolicy.Text
