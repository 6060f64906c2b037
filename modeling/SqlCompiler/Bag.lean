import SqlCompiler.Filter.Basic
import SqlCompiler.Value.Json

/-!
# Bags of named members

A bag is a JSON object whose keys are column names.  Its members are read in
order, one item for each: a field from the name alone, a sort key from a name
and a direction, a comparator from a name and a value.  A member that is
itself an object names a comparison under `operation` and its value under
`value`.  The first member that cannot be read refuses the whole bag, and so
does a bag that is no object or has no member.
-/

namespace SqlCompiler

namespace Bag

/-- What a document is, for the refusal of a bag that is no object. -/
def kindName : Json → String
  | .null => "null"
  | .bool _ => "a boolean"
  | .number _ => "a number"
  | .string _ => "a string"
  | .array _ => "an array"
  | .object _ => "an object"

def members (bag : Json) : Except CompileError (List (String × Json)) :=
  match bag with
  | .object [] => .error .bagWithoutMembers
  | .object (first :: rest) => .ok (first :: rest)
  | other => .error (.bagNotObject (kindName other))

/-- The text of a key: texts, finite numbers and truth values can be keys. -/
def keyText : Json → Except CompileError String
  | .string text => .ok text
  | .number (.integer value) => .ok (toString value)
  | .number (.float value) =>
      if value.isFinite then .ok (Json.floatText value) else .error .bagKeyNotFinite
  | .bool value => .ok (if value then "true" else "false")
  | _ => .error .bagKeyNotText

def ofEntries (entries : List (Json × Json)) : Except CompileError Json := do
  let members ← entries.mapM (fun entry => do
    let key ← keyText entry.1
    .ok (key, entry.2))
  .ok (.object (Json.uniqueMembers members))

end Bag

namespace Field

def ofBag (bag : Json) : Except CompileError (List Field) := do
  let members ← Bag.members bag
  members.mapM (fun member => ofName member.1)

end Field

namespace SortKey

/-- The sort key of a member, whose value is a direction. -/
def ofMember (member : String × Json) : Except CompileError SortKey :=
  match member.2 with
  | .string direction => do
      let order ← SortOrder.parse direction
      make member.1 order
  | _ => .error (.orderNotText member.1)

def ofBag (bag : Json) : Except CompileError (List SortKey) := do
  let members ← Bag.members bag
  members.mapM ofMember

end SortKey

namespace Comparator

/-- The comparator of a member, for equality unless its value names a comparison. -/
def ofMember (member : String × Json) : Except CompileError Comparator :=
  match member.2 with
  | .object inner =>
      match (Json.object inner).member? "operation" with
      | none => .error (.operationMissing member.1)
      | some (.string operation) => do
          let comparison ← Comparison.parse operation
          make member.1 comparison
            (((Json.object inner).member? "value").elim .null Value.ofJson)
      | some _ => .error (.operationNotText member.1)
  | value => equal member.1 (.ofJson value)

def ofBag (bag : Json) : Except CompileError (List Comparator) := do
  let members ← Bag.members bag
  members.mapM ofMember

end Comparator

namespace Filter

/-- The conjunction of one comparator for each member of a bag. -/
def ofBag (bag : Json) : Except CompileError Filter := do
  let comparators ← Comparator.ofBag bag
  .ok (.all comparators)

end Filter

end SqlCompiler
