import SqlCompiler.Record.Basic
import SqlCompiler.Toml.Reader

/-!
# What a reader looks at

A reader of records does not look at every value of a TOML document.  In a
record that is written as an array it ignores the items behind the last
position, and in an open record it ignores the members that are not listed.  A
layout says which values are looked at.  Those have to be JSON documents; what
is ignored in an open record may also be a wider integer, and what stands
behind the last position may be anything.
-/

namespace SqlCompiler

namespace Record

/-- What a reader looks at in a value: all of it, its items, or the members of a record. -/
inductive Layout where
  | whole
  | list (items : Layout)
  | record (shape : Shape) (members : String → Layout)

namespace Layout

def flat (shape : Shape) : Layout :=
  .record shape (fun _ => .whole)

mutual

def select : Layout → Toml.Node → Option Json
  | .list items, .array nodes => (selectItems items nodes).map .array
  | .list items, .tables nodes => (selectItems items nodes).map .array
  | .record shape members, .array nodes =>
      (selectPositions members shape.names nodes).map .array
  | .record shape members, .tables nodes =>
      (selectPositions members shape.names nodes).map .array
  | .record shape members, .table _ entries =>
      (selectMembers shape members entries).map .object
  | _, node => node.toJson?

/-- The documents that a reader sees of the items of a list. -/
def selectItems (items : Layout) : List Toml.Node → Option (List Json)
  | [] => some []
  | node :: rest => do
      let item ← select items node
      let others ← selectItems items rest
      some (item :: others)

/-- The documents that a reader sees at the positions of a record. -/
def selectPositions (members : String → Layout) :
    List String → List Toml.Node → Option (List Json)
  | name :: names, node :: rest => do
      let item ← select (members name) node
      let others ← selectPositions members names rest
      some (item :: others)
  | _, _ => some []

def selectMembers (shape : Shape) (members : String → Layout) :
    List (String × Toml.Node) → Option (List (String × Json))
  | [] => some []
  | (name, node) :: rest =>
      if shape.names.contains name then do
        let value ← select (members name) node
        let others ← selectMembers shape members rest
        some ((name, value) :: others)
      else if !shape.closed && node.isIgnorable then selectMembers shape members rest
      else none

end

/-- A value that is looked at as a whole is its document. -/
@[simp]
theorem select_whole (node : Toml.Node) : select .whole node = node.toJson? := by
  cases node <;> rfl

/-- Nothing behind the last position is looked at. -/
theorem selectPositions_nil (members : String → Layout) (nodes : List Toml.Node) :
    selectPositions members [] nodes = some [] := by
  cases nodes <;> rfl

def read? (layout : Layout) (text : String) : Option Json := do
  let node ← Toml.read? text
  layout.select node

end Layout

end Record

end SqlCompiler
