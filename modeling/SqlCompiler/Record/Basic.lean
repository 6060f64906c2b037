import SqlCompiler.Json.Basic

/-!
# Records in documents

A record is a document with named members.  It is written as an object, or as
an array that gives the members by position.  A shape lists the names, says
how many positions an array has to fill, and whether a record may have other
members, which are then ignored.  No listed member may be given twice, and no
array may be longer than the record.

Documents come from two notations.  They differ in the argument of a constant
in the long form, which is null in JSON and something empty in TOML.
-/

namespace SqlCompiler

namespace Record

/-- The notation that a document was read from. -/
inductive Source where
  | json
  | toml
  deriving DecidableEq, Repr

namespace Source

def isNoArgument : Source → Json → Bool
  | .json, .null => true
  | .toml, .object [] => true
  | .toml, .array [] => true
  | _, _ => false

end Source

/-- How a record is laid out. -/
structure Shape where
  names : List String
  required : Nat
  closed : Bool := false
  deriving Repr

namespace Shape

def allows (shape : Shape) (members : List (String × Json)) : Bool :=
  (!shape.closed || members.all (fun member => shape.names.contains member.1)) &&
    shape.names.all (fun name => (members.filter (·.1 == name)).length ≤ 1)

def members? (shape : Shape) : Json → Option Json
  | .object members => if shape.allows members then some (.object members) else none
  | .array items =>
      if shape.required ≤ items.length ∧ items.length ≤ shape.names.length then
        some (.object (shape.names.zip items))
      else none
  | _ => none

end Shape

def required? {α : Type} (record : Json) (name : String) (decode : Json → Option α) :
    Option α := do
  let value ← record.member? name
  decode value

/-- Read a member that has a value of its own when it is missing. -/
def withDefault? {α : Type} (record : Json) (name : String) (missing : α)
    (decode : Json → Option α) : Option α :=
  match record.member? name with
  | some value => decode value
  | none => some missing

def nullable? {α : Type} (decode : Json → Option α) : Json → Option (Option α)
  | .null => some none
  | value => (decode value).map some

def optional? {α : Type} (record : Json) (name : String) (decode : Json → Option α) :
    Option (Option α) :=
  withDefault? record name none (nullable? decode)

def text? : Json → Option String
  | .string value => some value
  | _ => none

def bool? : Json → Option Bool
  | .bool value => some value
  | _ => none

def below? (bound : Nat) : Json → Option Nat
  | .number (.integer (.ofNat value)) => if value < bound then some value else none
  | _ => none

def count? (document : Json) : Option Nat :=
  below? Word.unsignedLimit document

def byte? (document : Json) : Option UInt8 :=
  (below? 256 document).map UInt8.ofNat

def array? {α : Type} (decode : Json → Option α) : Json → Option (List α)
  | .array items => items.mapM decode
  | _ => none

/-- Read the name of a constant, alone or with no argument. -/
def constant? (source : Source) : Json → Option String
  | .string name => some name
  | .object [(name, argument)] => if source.isNoArgument argument then some name else none
  | _ => none

def parsed? {ε α : Type} (parse : String → Except ε α) (document : Json) : Option α := do
  let text ← text? document
  (parse text).toOption

def ofCount (value : Nat) : Json :=
  .number (.integer value)

def ofNullable {α : Type} (encode : α → Json) : Option α → Json
  | some value => encode value
  | none => .null

/-- A written count is read back. -/
theorem count?_ofCount {value : Nat} (small : value < Word.unsignedLimit) :
    count? (ofCount value) = some value := by
  simp only [count?, ofCount, below?]
  exact if_pos small

/-- A written byte is read back. -/
@[simp]
theorem byte?_ofCount (value : UInt8) : byte? (ofCount value.toNat) = some value := by
  have small : value.toNat < 256 := value.toNat_lt
  simp only [byte?, ofCount, below?]
  rw [if_pos small]
  simp

end Record

end SqlCompiler
