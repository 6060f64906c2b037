import SqlCompiler.Number.Binary64

/-!
# JSON documents

A document keeps the order of the members of its objects, and it can hold one
key several times, because a reader of records has to see a repeated key.
Everywhere else an object is a map: `withUniqueKeys` keeps the first position
and the last value of every key.  Numbers are integers or floating-point
words; only words that come from another notation can be infinite.
-/

namespace SqlCompiler

/-- A number of a document. -/
inductive Json.Number where
  | integer (value : Int)
  | float (value : Binary64)
  deriving DecidableEq, Repr

/-- A document. -/
inductive Json where
  | null
  | bool (value : Bool)
  | number (value : Json.Number)
  | string (value : String)
  | array (items : List Json)
  | object (members : List (String × Json))
  deriving Repr, Inhabited

namespace Json

/-- Put a member into a map: in place of the one with its key, else at the end. -/
def insertMember (key : String) (value : Json) : List (String × Json) → List (String × Json)
  | [] => [(key, value)]
  | (other, old) :: rest =>
      if other = key then (other, value) :: rest
      else (other, old) :: insertMember key value rest

/-- Keep the first position and the last value of every key. -/
def uniqueMembers (members : List (String × Json)) : List (String × Json) :=
  members.foldl (fun kept member => insertMember member.1 member.2 kept) []

mutual

def withUniqueKeys : Json → Json
  | .array items => .array (itemsWithUniqueKeys items)
  | .object members => .object (uniqueMembers (membersWithUniqueKeys members))
  | .null => .null
  | .bool value => .bool value
  | .number value => .number value
  | .string value => .string value

def itemsWithUniqueKeys : List Json → List Json
  | [] => []
  | item :: rest => withUniqueKeys item :: itemsWithUniqueKeys rest

def membersWithUniqueKeys : List (String × Json) → List (String × Json)
  | [] => []
  | (key, value) :: rest => (key, withUniqueKeys value) :: membersWithUniqueKeys rest

end

mutual

/-- Write null for every number that is infinite or no number. -/
def withFiniteNumbers : Json → Json
  | .number (.float value) => if value.isFinite then .number (.float value) else .null
  | .array items => .array (itemsWithFiniteNumbers items)
  | .object members => .object (membersWithFiniteNumbers members)
  | .null => .null
  | .bool value => .bool value
  | .number (.integer value) => .number (.integer value)
  | .string value => .string value

/-- Write null for every number of some documents that is infinite or no number. -/
def itemsWithFiniteNumbers : List Json → List Json
  | [] => []
  | item :: rest => withFiniteNumbers item :: itemsWithFiniteNumbers rest

/-- Write null for every number below some members that is infinite or no number. -/
def membersWithFiniteNumbers : List (String × Json) → List (String × Json)
  | [] => []
  | (key, value) :: rest => (key, withFiniteNumbers value) :: membersWithFiniteNumbers rest

end

def member? (document : Json) (key : String) : Option Json :=
  match document with
  | .object members => (members.find? (·.1 == key)).map Prod.snd
  | _ => none

/-- A member was put in under its key. -/
theorem member?_insertMember (key : String) (value : Json) (members : List (String × Json)) :
    (object (insertMember key value members)).member? key = some value := by
  induction members with
  | nil => simp [insertMember, member?]
  | cons first rest ih =>
      by_cases same : first.1 = key
      · simp [insertMember, member?, same]
      · simp only [insertMember, member?, same] at ih ⊢
        simpa [same] using ih

end Json

end SqlCompiler
