import SqlCompiler.Toml.Scalar

/-!
# Tables in TOML

A document is a table that grows line by line.  A table remembers how it came
to be, because that decides how it may grow: tables that are only named on the
way to others may be defined once later, tables that dotted keys have made
grow by dotted keys, and tables in braces never grow.  A path goes through an
array of tables by its last table.  No key is given twice in one table.
-/

namespace SqlCompiler

namespace Toml

/-- How a table came to be. -/
structure Origin where
  /-- The table was named on the way to another one and not yet defined. -/
  implicit : Bool := false
  /-- The table was named by a dotted key. -/
  dotted : Bool := false
  /-- The table is written in braces. -/
  inline : Bool := false
  deriving DecidableEq, Repr

/-- A value of a document. -/
inductive Node where
  | scalar (value : Scalar)
  | array (items : List Node)
  | tables (items : List Node)
  | table (origin : Origin) (members : List (String × Node))
  deriving Repr, Inhabited

mutual

/-- The document of a value, if all of its parts have one. -/
def Node.toJson? : Node → Option Json
  | .scalar value => value.toJson?
  | .array items => (nodesToJson? items).map .array
  | .tables items => (nodesToJson? items).map .array
  | .table _ members => (membersToJson? members).map .object

def nodesToJson? : List Node → Option (List Json)
  | [] => some []
  | item :: rest => do
      let first ← item.toJson?
      let others ← nodesToJson? rest
      some (first :: others)

def membersToJson? : List (String × Node) → Option (List (String × Json))
  | [] => some []
  | (key, value) :: rest => do
      let first ← value.toJson?
      let others ← membersToJson? rest
      some ((key, first) :: others)

end

mutual

def Node.isIgnorable : Node → Bool
  | .scalar value => value.isIgnorable
  | .array items => nodesIgnorable items
  | .tables items => nodesIgnorable items
  | .table _ members => membersIgnorable members

def nodesIgnorable : List Node → Bool
  | [] => true
  | item :: rest => item.isIgnorable && nodesIgnorable rest

def membersIgnorable : List (String × Node) → Bool
  | [] => true
  | (_, value) :: rest => value.isIgnorable && membersIgnorable rest

end

/-- A table under construction. -/
structure Table where
  origin : Origin := {}
  members : List (String × Node) := []
  deriving Repr

namespace Table

def node (table : Table) : Node :=
  .table table.origin table.members

def find? (table : Table) (key : String) : Option Node :=
  (table.members.find? (·.1 == key)).map Prod.snd

def add (table : Table) (key : String) (value : Node) : Table :=
  { table with members := table.members ++ [(key, value)] }

def replace (table : Table) (key : String) (value : Node) : Table :=
  { table with
    members := table.members.map (fun member =>
      if member.1 == key then (key, value) else member) }

def remove (table : Table) (key : String) : Table :=
  { table with members := table.members.filter (·.1 != key) }

def onTheWay (dotted : Bool) : Table where
  origin := { implicit := true, dotted }

/-- A path may go through a table; dotted keys do not go through defined ones. -/
def isOpen (origin : Origin) (dotted : Bool) : Bool :=
  (!dotted || origin.implicit) && !origin.inline

/--
Change the table at the end of a path.

Tables that are missing on the way are made.  A path goes through the last
table of an array of tables, and through no other value.
-/
def changeAt (dotted : Bool) (change : Table → Option Table) :
    List String → Table → Option Table
  | [], table => change table
  | key :: path, table =>
      match table.find? key with
      | none => do
          let inner ← changeAt dotted change path (onTheWay dotted)
          some (table.add key inner.node)
      | some (.table origin members) => do
          guard (isOpen origin dotted)
          let inner ← changeAt dotted change path { origin, members }
          some (table.replace key inner.node)
      | some (.tables items) =>
          match items.getLast? with
          | some (.table origin members) => do
              let inner ← changeAt dotted change path { origin, members }
              some (table.replace key (.tables (items.dropLast ++ [inner.node])))
          | _ => none
      | some _ => none

def addNew (key : String) (value : Node) (table : Table) : Option Table :=
  match table.find? key with
  | some _ => none
  | none => some (table.add key value)

/-- Add a value under a dotted key, whose last table must have been made by dotted keys. -/
def addDotted (path : List String) (key : String) (value : Node) (table : Table) :
    Option Table :=
  let dotted := !path.isEmpty
  changeAt dotted
    (fun inner => if inner.origin.dotted == dotted then addNew key value inner else none)
    path table

/-- Add a table to an array of tables, which is made for the first one. -/
def addToArray (key : String) (value : Node) (table : Table) : Option Table :=
  match table.find? key with
  | none => some (table.add key (.tables [value]))
  | some (.tables items) => some (table.replace key (.tables (items ++ [value])))
  | some _ => none

def closed (table : Table) : Node :=
  .table { table.origin with inline := true } table.members

end Table

/-- A header that starts a table. -/
structure Header where
  path : List String
  key : String
  isArray : Bool
  deriving Repr

/-- A document under construction: all finished tables and the one that grows. -/
structure Draft where
  root : Table := {}
  current : Table := {}
  header : Option Header := none
  deriving Repr

namespace Draft

def finish (draft : Draft) : Option Table :=
  match draft.header with
  | none => some draft.current
  | some header =>
      let place := fun table =>
        if header.isArray then Table.addToArray header.key draft.current.node table
        else some (table.add header.key draft.current.node)
      Table.changeAt false place header.path draft.root

/--
The table that a header starts with, and the finished ones without it.

A table that was only named on the way keeps what it has; any other value under
the key is refused.
-/
def reopen (root : Table) (header : Header) : Option (Table × Table) :=
  if header.isArray then some ({}, root)
  else do
    let found ← Table.changeAt false some header.path root
    match findIn header.path found with
    | none => some ({}, found)
    | some (.table origin members) => do
        guard (origin.implicit ∧ !origin.dotted)
        let rest ← Table.changeAt false (fun table => some (table.remove header.key))
          header.path found
        some ({ members }, rest)
    | some _ => none
where
  /-- The value that a header names. -/
  findIn (path : List String) (table : Table) : Option Node :=
    match path with
    | [] => table.find? header.key
    | key :: path =>
        match table.find? key with
        | some (.table origin members) => findIn path { origin, members }
        | some (.tables items) =>
            match items.getLast? with
            | some (.table origin members) => findIn path { origin, members }
            | _ => none
        | _ => none

def start (draft : Draft) (header : Header) : Option Draft := do
  let root ← draft.finish
  let (current, root) ← reopen root header
  some { root, current, header := some header }

/-- Add a value under a key with its path to the growing table. -/
def add (draft : Draft) (path : List String) (key : String) (value : Node) : Option Draft := do
  let current ← draft.current.addDotted path key value
  some { draft with current }

end Draft

end Toml

end SqlCompiler
