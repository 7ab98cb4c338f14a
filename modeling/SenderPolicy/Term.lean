/-
Terms of a sender policy record.

A record is a version tag followed by terms.  A term has a qualifier, which says what a match
means, a kind, and a value that may be empty.  A kind whose name is not one of those that
RFC 7208 defines is kept under that name in lower case.
-/
namespace SenderPolicy

/-- What a match of a term means for the sender. -/
inductive Qualifier where
  | pass
  | fail
  | softFail
  | neutral
  deriving DecidableEq, Repr

namespace Qualifier

/-- The qualifier that a character stands for. -/
def ofChar? : Char → Option Qualifier
  | '+' => some pass
  | '-' => some fail
  | '~' => some softFail
  | '?' => some neutral
  | _ => none

/-- The character of a qualifier. -/
def toChar : Qualifier → Char
  | pass => '+'
  | fail => '-'
  | softFail => '~'
  | neutral => '?'

@[simp] theorem ofChar?_toChar (q : Qualifier) : ofChar? q.toChar = some q := by
  cases q <;> rfl

end Qualifier

/-- What a term tests or changes. -/
inductive Kind where
  /-- Matches every sender. -/
  | all
  /-- Matches what the policy of another domain lets pass. -/
  | inclusion
  /-- Matches the addresses of a domain. -/
  | address
  /-- Matches the mail exchangers of a domain. -/
  | mailExchange
  /-- Matches a range of IPv4 addresses. -/
  | ip4
  /-- Matches a range of IPv6 addresses. -/
  | ip6
  /-- Matches by reverse mapping; deprecated. -/
  | pointer
  /-- Matches if a domain has an address. -/
  | existence
  /-- Hands the decision to the policy of another domain. -/
  | redirect
  /-- Names the domain of an explanation text. -/
  | explanation
  /-- A kind of another name. -/
  | unknown (name : String)
  deriving DecidableEq, Repr

namespace Kind

/-- The name of a kind as records write it. -/
def name : Kind → String
  | all => "all"
  | inclusion => "include"
  | address => "a"
  | mailExchange => "mx"
  | ip4 => "ip4"
  | ip6 => "ip6"
  | pointer => "ptr"
  | existence => "exists"
  | redirect => "redirect"
  | explanation => "exp"
  | unknown name => name

/-- The kind of a name that is in lower case already. -/
def ofLowerName (name : String) : Kind :=
  if name = "all" then all
  else if name = "include" then inclusion
  else if name = "a" then address
  else if name = "mx" then mailExchange
  else if name = "ip4" then ip4
  else if name = "ip6" then ip6
  else if name = "ptr" then pointer
  else if name = "exists" then existence
  else if name = "redirect" then redirect
  else if name = "exp" then explanation
  else unknown name

/-- The kind of a name, in which the case of ASCII letters does not matter. -/
def ofName (name : String) : Kind := ofLowerName name.toLower

/-- Whether evaluating a term of this kind takes a DNS lookup, so that it counts against the
limit. -/
def takesLookup : Kind → Bool
  | inclusion | address | mailExchange | pointer | existence | redirect => true
  | _ => false

/-- Whether a term of this kind refers to the policy of another domain. -/
def isReference : Kind → Bool
  | inclusion | redirect => true
  | _ => false

/-- Whether a term of this kind is a modifier, which matches nothing itself. -/
def isModifier : Kind → Bool
  | redirect | explanation => true
  | _ => false

/-- Whether a kind is none of those that RFC 7208 defines. -/
def isUnknown : Kind → Bool
  | unknown _ => true
  | _ => false

/-- A kind is canonical if it is the kind of its own name. -/
def IsCanonical (k : Kind) : Prop := ofName k.name = k

instance (k : Kind) : Decidable k.IsCanonical := inferInstanceAs (Decidable (_ = _))

/-- A name in lower case is the name of its kind. -/
theorem name_ofLowerName (name : String) : (ofLowerName name).name = name := by
  -- every test is for the name of the kind that it leads to, and the last kind keeps the name
  unfold ofLowerName
  iterate 10
    refine iteInduction (motive := fun k : Kind => k.name = name) (fun h => h.symm) fun _ => ?_
  rfl

end Kind

/-- A term of a record. -/
structure Term where
  qualifier : Qualifier
  kind : Kind
  value : String
  deriving DecidableEq, Repr

namespace Term

/-- The character between the name and the value of a term of the given kind. -/
def separator (k : Kind) : String := if k.isModifier then "=" else ":"

/-- The written form of a term.  The qualifier for a pass is left out, and so is an empty value
with its separator. -/
def display (t : Term) : String :=
  (if t.qualifier = .pass then "" else t.qualifier.toChar.toString) ++ t.kind.name ++
    (if t.value = "" then "" else separator t.kind ++ t.value)

end Term

end SenderPolicy
