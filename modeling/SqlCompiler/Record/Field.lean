import SqlCompiler.Column
import SqlCompiler.Json.Excerpt
import SqlCompiler.Record.Keyword

/-!
# Fields, sort keys and columns in documents

A field is written as an object with its name and, if it declares one, its
type; it is read from such an object or from its bare name, and never from an
array.  A sort key that is read here may have a blank name.  A column is
written with all its members, and only its name has to be there.  A sort key or
a column that is read from a text ignores the members that are not listed.
-/

namespace SqlCompiler

namespace Field

def toJson (field : Field) : Json :=
  match field.type with
  | some type => .object [("name", .string field.name), ("db_type", type.toJson)]
  | none => .object [("name", .string field.name)]

def shape : Record.Shape where
  names := ["name", "db_type"]
  required := 1

def decodeMembers? (record : Json) : Option Field := do
  let name ← Record.required? record "name" Record.text?
  let type ← Record.optional? record "db_type" (SqlType.decode? .json)
  let field ← (ofName name).toOption
  some { field with type }

def decode? : Json → Option Field
  | .string name => (ofName name).toOption
  | .object members => do
      let record ← shape.members? (.object members)
      decodeMembers? record
  | _ => none

end Field

namespace SortKey

def toJson (key : SortKey) : Json :=
  .object [("name", .string key.name), ("order", key.order.toJson)]

def shape : Record.Shape where
  names := ["name", "order"]
  required := 1

def decode? (document : Json) : Option SortKey := do
  let record ← shape.members? document
  let name ← Record.required? record "name" Record.text?
  let order ← Record.withDefault? record "order" .ascending SortOrder.decode?
  some { name, order }

def read? (text : String) : Option SortKey :=
  (Json.readExcerpt? shape.names text).bind decode?

end SortKey

namespace Column

def toJson (column : Column) : Json :=
  .object
    [("name", .string column.name),
      ("is_primary", .bool column.isPrimary),
      ("is_identity", .bool column.isIdentity),
      ("is_nullable", .bool column.isNullable),
      ("db_type", Record.ofNullable SqlType.toJson column.type),
      ("size", Record.ofNullable Record.ofCount column.size),
      ("precision", Record.ofNullable (fun value => Record.ofCount value.toNat) column.precision),
      ("scale", Record.ofNullable (fun value => Record.ofCount value.toNat) column.scale),
      ("has_default_value", .bool column.hasDefault)]

def shape : Record.Shape where
  names :=
    ["name", "is_primary", "is_identity", "is_nullable", "db_type", "size", "precision",
      "scale", "has_default_value"]
  required := 1

def decode? (source : Record.Source) (document : Json) : Option Column := do
  let record ← shape.members? document
  let name ← Record.required? record "name" Record.text?
  let isPrimary ← Record.withDefault? record "is_primary" false Record.bool?
  let isIdentity ← Record.withDefault? record "is_identity" false Record.bool?
  let isNullable ← Record.withDefault? record "is_nullable" true Record.bool?
  let type ← Record.optional? record "db_type" (SqlType.decode? source)
  let size ← Record.optional? record "size" Record.count?
  let precision ← Record.optional? record "precision" Record.byte?
  let scale ← Record.optional? record "scale" Record.byte?
  let hasDefault ← Record.withDefault? record "has_default_value" false Record.bool?
  some { name, isPrimary, isIdentity, isNullable, type, size, precision, scale, hasDefault }

def read? (text : String) : Option Column :=
  (Json.readExcerpt? shape.names text).bind (decode? .json)

end Column

end SqlCompiler
