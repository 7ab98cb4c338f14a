/-
Tables as the statements of a TOML document build them.

A table comes into being by its own header, by the header of a table inside it, or by a dotted key.
How it came into being decides what may still be added to it:

* a header makes a new table, or takes over one that so far only the headers of inner tables
  implied;
* a dotted key goes through tables that are not made by a header of their own, and puts its value
  into one that is made by dotted keys;
* a header in double brackets adds a table to an array that only such headers make;
* a name in a table gets a value once.

A value is closed: nothing is added to an array or a table that is written as a value.
-/
import SenderPolicy.Toml.Basic

namespace SenderPolicy.Toml

/-- How a table came into being. -/
inductive Origin where
  /-- By a header of its own. -/
  | header
  /-- By the header of a table inside it. -/
  | implied
  /-- By a dotted key. -/
  | dotted
  deriving DecidableEq, Repr

mutual

/-- A part of a document under construction. -/
inductive Node where
  | value (v : Toml)
  | table (origin : Origin) (members : List Entry)
  /-- An array of tables, of which the last one is under construction, without the others. -/
  | tables (closed : List Toml) (members : List Entry)

/-- A name in a table with what it stands for. -/
inductive Entry where
  | mk (name : String) (node : Node)

end

namespace Entry

/-- The name of an entry. -/
def name : Entry → String
  | mk name _ => name

/-- What the name of an entry stands for. -/
def node : Entry → Node
  | mk _ node => node

end Entry

mutual

/-- The value of a part of a document. -/
def Node.toToml : Node → Toml
  | .value v => v
  | .table _ members => .table (membersOf members)
  | .tables closed members => .array (closed ++ [.table (membersOf members)])

/-- The members of a table of a document. -/
def membersOf : List Entry → List (String × Toml)
  | [] => []
  | .mk name node :: rest => (name, node.toToml) :: membersOf rest

end

/-- What a name stands for in a table. -/
def find? (name : String) (members : List Entry) : Option Node :=
  (members.find? fun e => e.name == name).map Entry.node

/-- A table in which a name stands for something else than before. -/
def replace (name : String) (node : Node) (members : List Entry) : List Entry :=
  members.map fun e => if e.name == name then .mk name node else e

/-- Changes the table at a path.  Tables that are missing on the way come into being as `missing`
says, and tables that do not satisfy `mayEnter` are in the way, as are values. -/
def changeAt (missing : Origin) (mayEnter : Origin → Bool)
    (change : Origin → List Entry → Option (List Entry)) :
    List String → Origin → List Entry → Option (List Entry)
  | [], origin, members => change origin members
  | name :: path, _, members =>
    match find? name members with
    | none => do
      let inner ← changeAt missing mayEnter change path missing []
      return members ++ [.mk name (.table missing inner)]
    | some (.value _) => none
    | some (.table origin inner) =>
      if mayEnter origin then do
        let inner ← changeAt missing mayEnter change path origin inner
        return replace name (.table origin inner) members
      else none
    | some (.tables closed inner) => do
      let inner ← changeAt missing mayEnter change path .header inner
      return replace name (.tables closed inner) members

/-- Gives a name a value in a table. -/
def put (name : String) (v : Toml) (members : List Entry) : Option (List Entry) :=
  match find? name members with
  | none => some (members ++ [.mk name (.value v)])
  | some _ => none

/-- Gives a key a value in a table.  The key is dotted if its path is not empty. -/
def putKey (path : List String) (name : String) (v : Toml) (members : List Entry) :
    Option (List Entry) :=
  changeAt .dotted (· != .header)
    (fun origin members =>
      if path.isEmpty || origin == .dotted then put name v members else none)
    path .header members

/-- Opens the table of a header. -/
def openTable (path : List String) (name : String) (members : List Entry) : Option (List Entry) :=
  changeAt .implied (fun _ => true)
    (fun _ members =>
      match find? name members with
      | none => some (members ++ [.mk name (.table .header [])])
      | some (.table .implied inner) => some (replace name (.table .header inner) members)
      | some _ => none)
    path .header members

/-- Adds a table to the array of a header in double brackets. -/
def openTables (path : List String) (name : String) (members : List Entry) :
    Option (List Entry) :=
  changeAt .implied (fun _ => true)
    (fun _ members =>
      match find? name members with
      | none => some (members ++ [.mk name (.tables [] [])])
      | some (.tables closed inner) =>
        some (replace name (.tables (closed ++ [.table (membersOf inner)]) []) members)
      | some _ => none)
    path .header members

/-- Gives a key a value in the table that a header has opened. -/
def putBelow (header : List String) (path : List String) (name : String) (v : Toml)
    (members : List Entry) : Option (List Entry) :=
  changeAt .implied (fun _ => true) (fun _ members => putKey path name v members)
    header .header members

/-- The members of the table with the given keys and values, where it is written as a value. -/
def inlineMembers? (pairs : List ((List String × String) × Toml)) :
    Option (List (String × Toml)) :=
  membersOf <$> pairs.foldlM (fun members ((path, name), v) => putKey path name v members) []

end SenderPolicy.Toml
