import SqlCompiler.Json.Writer
import SqlCompiler.Value.Basic

/-!
# Values and JSON

Every document stands for a value: an integer that fits in a signed 64-bit
word is an integer, every other number a floating-point value, and an object
is kept as the text of its compact notation.  The strict reader `decode?`
tries the kinds of values in a fixed order and has no kind for objects.
Values are written without a mark of their kind, so byte strings come back as
lists and identifiers and dates as texts.
-/

namespace SqlCompiler

namespace Value

def fitsWord (value : Int) : Bool :=
  -(Word.signedLimit : Int) ≤ value && value < (Word.signedLimit : Int)

def ofNumber : Json.Number → Value
  | .integer value => if fitsWord value then .int (.ofInt value) else .float (.ofInt value)
  | .float value => .float value

mutual

def ofJson : Json → Value
  | .null => .null
  | .bool value => .bool value
  | .number value => ofNumber value
  | .string value => .text value
  | .array items => .list (ofItems items)
  | .object members => .text (Json.object members).text

def ofItems : List Json → List Value
  | [] => []
  | item :: rest => ofJson item :: ofItems rest

end

def decodeNull? : Json → Option Value
  | .null => some .null
  | _ => none

def decodeBool? : Json → Option Value
  | .bool value => some (.bool value)
  | _ => none

def decodeInt? : Json → Option Value
  | .number (.integer value) => if fitsWord value then some (.int (.ofInt value)) else none
  | _ => none

/-- Read a document as a floating-point value, which integers also are. -/
def decodeFloat? : Json → Option Value
  | .number (.integer value) => some (.float (.ofInt value))
  | .number (.float value) => some (.float value)
  | _ => none

def decodeText? : Json → Option Value
  | .string value => some (.text value)
  | _ => none

def decodeByte? : Json → Option UInt8
  | .number (.integer value) =>
      if 0 ≤ value ∧ value < 256 then some (.ofNat value.toNat) else none
  | _ => none

def decodeBytes? : Json → Option Value
  | .array items => (items.mapM decodeByte?).map .bytes
  | _ => none

def decodeUuid? : Json → Option Value
  | .string value => (Uuid.parse? value).map .uuid
  | _ => none

def decodeDateTime? : Json → Option Value
  | .string value => (DateTime.parse? value).map .dateTime
  | _ => none

/-- The kinds of values that are tried before lists, in order. -/
def decodeBeforeList? (document : Json) : Option Value :=
  decodeNull? document <|> decodeBool? document <|> decodeInt? document <|>
    decodeFloat? document <|> decodeText? document

/-- The kinds of values that are tried behind lists, in order. -/
def decodeBehindList? (document : Json) : Option Value :=
  decodeBytes? document <|> decodeUuid? document <|> decodeDateTime? document

mutual

/-- Read a document as the first kind of value that accepts it. -/
def decode? : Json → Option Value
  | .array items =>
      decodeBeforeList? (.array items) <|> (decodeItems? items).map .list <|>
        decodeBehindList? (.array items)
  | .null => decodeBeforeList? .null <|> decodeBehindList? .null
  | .bool value => decodeBeforeList? (.bool value) <|> decodeBehindList? (.bool value)
  | .number value => decodeBeforeList? (.number value) <|> decodeBehindList? (.number value)
  | .string value => decodeBeforeList? (.string value) <|> decodeBehindList? (.string value)
  | .object members => decodeBeforeList? (.object members) <|> decodeBehindList? (.object members)

/-- Read some documents, each as the first kind of value that accepts it. -/
def decodeItems? : List Json → Option (List Value)
  | [] => some []
  | item :: rest =>
      match decode? item, decodeItems? rest with
      | some value, some values => some (value :: values)
      | _, _ => none

end

mutual

/-- The document of a value; what JSON cannot hold becomes a list, a text or null. -/
def toJson : Value → Json
  | .null => .null
  | .bool value => .bool value
  | .int value => .number (.integer value.toInt)
  | .float value => if value.isFinite then .number (.float value) else .null
  | .text value => .string value
  | .list items => .array (itemsToJson items)
  | .bytes value => .array (value.map (fun byte => .number (.integer byte.toNat)))
  | .uuid value => .string value.text
  | .dateTime value => .string value.text

def itemsToJson : List Value → List Json
  | [] => []
  | item :: rest => toJson item :: itemsToJson rest

end

def jsonText (value : Value) : String :=
  value.toJson.text

/-- An object has no kind of value of its own. -/
theorem decode?_object (members : List (String × Json)) :
    decode? (.object members) = none := by
  simp [decode?, decodeBeforeList?, decodeBehindList?, decodeNull?, decodeBool?, decodeInt?,
    decodeFloat?, decodeText?, decodeBytes?, decodeUuid?, decodeDateTime?]

end Value

end SqlCompiler
