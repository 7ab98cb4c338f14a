/-
TOML values.

Only texts, integers, arrays and tables are told apart.  Truth values, fractions and times are known
to be values, but nothing in this library has one, so what they are is not kept.
-/
namespace SenderPolicy

/-- A TOML value. -/
inductive Toml where
  | text (s : String)
  | integer (n : Int)
  /-- A truth value, a fraction or a time. -/
  | other
  | array (items : List Toml)
  /-- A table; no name in it is repeated. -/
  | table (members : List (String × Toml))

end SenderPolicy
