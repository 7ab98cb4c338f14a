/-
Splitting a text into fields, blanks included.

A text is a list of characters here.  `split p` cuts it at every character that satisfies `p`
and keeps the empty fields, so a text with `n` separators has `n + 1` fields.  Blank characters
are those with the Unicode property `White_Space`; `trim` takes them from both ends of a text
and `words` returns the longest blank-free runs, in order.
-/
namespace SenderPolicy.Text

/-- The fields of a text between the characters that satisfy `p`, empty fields included. -/
def split (p : Char → Bool) : List Char → List (List Char)
  | [] => [[]]
  | c :: rest =>
    if p c then [] :: split p rest
    else match split p rest with
      | [] => [[c]]
      | field :: fields => (c :: field) :: fields

/-- The characters with the Unicode property `White_Space`. -/
def isBlank (c : Char) : Bool :=
  let n := c.toNat
  (0x09 ≤ n && n ≤ 0x0D) || n == 0x20 || n == 0x85 || n == 0xA0 || n == 0x1680 ||
    (0x2000 ≤ n && n ≤ 0x200A) || n == 0x2028 || n == 0x2029 || n == 0x202F || n == 0x205F ||
    n == 0x3000

/-- A text without the characters at its end that satisfy `p`. -/
def dropEndWhile (p : Char → Bool) (s : List Char) : List Char :=
  (s.reverse.dropWhile p).reverse

/-- A text without the blanks at its two ends. -/
def trimmed (s : List Char) : List Char :=
  dropEndWhile isBlank (s.dropWhile isBlank)

/-- A string without the blanks at its two ends. -/
def trim (s : String) : String :=
  String.ofList (trimmed s.toList)

/-- The longest blank-free runs of a text, in order. -/
def words (s : List Char) : List (List Char) :=
  (split isBlank s).filter fun field => !field.isEmpty

/-- The fields of a string between the characters that satisfy `p`, as strings. -/
def fields (p : Char → Bool) (s : String) : List String :=
  (split p s.toList).map String.ofList

/-- A text always has at least one field. -/
theorem split_ne_nil (p : Char → Bool) (s : List Char) : split p s ≠ [] := by
  induction s with
  | nil => simp [split]
  | cons c rest ih =>
    unfold split
    split
    · simp
    · split <;> simp

/-- A separator ends the first field. -/
@[simp] theorem split_cons_of_sep {p : Char → Bool} {c : Char} (h : p c = true) (s : List Char) :
    split p (c :: s) = [] :: split p s := by
  simp [split, h]

/-- A character that is no separator goes to the front of the first field. -/
theorem split_cons_of_not_sep {p : Char → Bool} {c : Char} (h : p c = false) {s field : List Char}
    {rest : List (List Char)} (hs : split p s = field :: rest) :
    split p (c :: s) = (c :: field) :: rest := by
  simp [split, h, hs]

end SenderPolicy.Text
