import Mathlib.Data.List.Forall2
import SqlCompiler.Proofs.Number.Finite
import SqlCompiler.Value.Json

/-!
# Two readings of a document

A document is read as a value in two ways: by its shape, and by trying the
kinds of values in a fixed order.  Where no object occurs, both give the same
value.  Where one does, only the first succeeds, which keeps the object as a
text.

A value that is written and read again has lost the marks of its kinds: a byte
string is a list of integers, an identifier or a date is a text, and a number
that is not finite is null.  A value that was read has no such kinds, so nothing
is lost of it.
-/

namespace SqlCompiler

namespace Json

mutual

/-- An object occurs in the document, at some depth. -/
def hasObject : Json → Bool
  | .object _ => true
  | .array items => someHasObject items
  | _ => false

def someHasObject : List Json → Bool
  | [] => false
  | item :: rest => hasObject item || someHasObject rest

end

/-- The numbers that a document in JSON can hold: words of 64 bits and finite numbers. -/
def Number.isStandard : Json.Number → Bool
  | .integer value => Word.holds value
  | .float value => value.isFinite

mutual

/-- All numbers of the document are such as JSON can hold. -/
def isStandard : Json → Bool
  | .number value => value.isStandard
  | .array items => allStandard items
  | .object members => membersStandard members
  | _ => true

def allStandard : List Json → Bool
  | [] => true
  | item :: rest => isStandard item && allStandard rest

def membersStandard : List (String × Json) → Bool
  | [] => true
  | (_, value) :: rest => isStandard value && membersStandard rest

end

end Json

namespace Value

/-- What a document without objects stands for. -/
inductive StandsFor : Json → Value → Prop where
  | null : StandsFor .null .null
  | bool (value : Bool) : StandsFor (.bool value) (.bool value)
  | int {number : Int} (fits : fitsWord number = true) :
      StandsFor (.number (.integer number)) (.int (.ofInt number))
  | wide {number : Int} (wide : fitsWord number = false) :
      StandsFor (.number (.integer number)) (.float (.ofInt number))
  | float (number : Binary64) : StandsFor (.number (.float number)) (.float number)
  | text (value : String) : StandsFor (.string value) (.text value)
  | list {items : List Json} {values : List Value} (each : List.Forall₂ StandsFor items values) :
      StandsFor (.array items) (.list values)

/-! ## Reading -/

theorem decode?_number (number : Json.Number) :
    decode? (.number number) = some (ofNumber number) := by
  cases number with
  | integer value =>
      cases fits : fitsWord value <;>
        simp [decode?, decodeBeforeList?, decodeNull?, decodeBool?, decodeInt?, decodeFloat?,
          ofNumber, fits]
  | float value => rfl

/-- An item with an object in it is no byte. -/
theorem mapM_decodeByte?_of_object {items : List Json} (found : Json.someHasObject items = true) :
    items.mapM decodeByte? = none := by
  induction items with
  | nil => cases found
  | cons item rest ih =>
      rw [List.mapM_cons]
      obtain inFirst | behind := Bool.or_eq_true_iff.mp found
      · have noByte : decodeByte? item = none := by
          cases item with
          | array items => rfl
          | object members => rfl
          | _ => cases inFirst
        rw [noByte]
        rfl
      · rw [ih behind]
        cases decodeByte? item <;> rfl

theorem decode?_array (items : List Json) :
    decode? (.array items) = ((decodeItems? items).map .list <|> decodeBytes? (.array items)) := by
  have before : decodeBeforeList? (.array items) = none := rfl
  have behind : decodeBehindList? (.array items) = decodeBytes? (.array items) := by
    simp [decodeBehindList?, decodeUuid?, decodeDateTime?]
  rw [decode?, before, behind]
  rfl

mutual

/-- The kinds of values accept a document without objects, and nothing else. -/
theorem decode?_eq (document : Json) :
    decode? document = if document.hasObject then none else some (ofJson document) := by
  cases document with
  | null => rfl
  | bool value => rfl
  | number number => exact decode?_number number
  | string value => rfl
  | object members => exact decode?_object members
  | array items =>
      rw [decode?_array, decodeItems?_eq items, Json.hasObject]
      cases found : Json.someHasObject items with
      | false => rfl
      | true =>
          rw [decodeBytes?, mapM_decodeByte?_of_object found]
          rfl

theorem decodeItems?_eq (items : List Json) :
    decodeItems? items = if Json.someHasObject items then none else some (ofItems items) := by
  cases items with
  | nil => rfl
  | cons item rest =>
      rw [decodeItems?, decode?_eq item, decodeItems?_eq rest, Json.someHasObject]
      cases item.hasObject <;> cases Json.someHasObject rest <;> rfl

end

mutual

theorem standsFor_ofJson {document : Json} (free : document.hasObject = false) :
    StandsFor document (ofJson document) := by
  cases document with
  | null => exact .null
  | bool value => exact .bool value
  | number number =>
      cases number with
      | integer value =>
          cases fits : fitsWord value with
          | true => simpa [ofJson, ofNumber, fits] using StandsFor.int fits
          | false => simpa [ofJson, ofNumber, fits] using StandsFor.wide fits
      | float value => exact .float value
  | string value => exact .text value
  | object members => cases free
  | array items => exact .list (forall₂_standsFor_ofItems free)

theorem forall₂_standsFor_ofItems {items : List Json} (free : Json.someHasObject items = false) :
    List.Forall₂ StandsFor items (ofItems items) := by
  cases items with
  | nil => exact .nil
  | cons item rest =>
      obtain ⟨first, others⟩ := Bool.or_eq_false_iff.mp free
      exact .cons (standsFor_ofJson first) (forall₂_standsFor_ofItems others)

end

mutual

theorem eq_ofJson_of_standsFor {document : Json} {value : Value}
    (stands : StandsFor document value) :
    document.hasObject = false ∧ value = ofJson document := by
  cases document with
  | number number =>
      cases stands with
      | int fits => exact ⟨rfl, by simp [ofJson, ofNumber, fits]⟩
      | wide wide => exact ⟨rfl, by simp [ofJson, ofNumber, wide]⟩
      | float => exact ⟨rfl, rfl⟩
  | array items =>
      cases stands with
      | list each =>
          obtain ⟨free, same⟩ := eq_ofItems_of_forall₂ each
          exact ⟨free, congrArg Value.list same⟩
  | object members => cases stands
  | _ =>
      cases stands
      exact ⟨rfl, rfl⟩

theorem eq_ofItems_of_forall₂ {items : List Json} {values : List Value}
    (each : List.Forall₂ StandsFor items values) :
    Json.someHasObject items = false ∧ values = ofItems items := by
  cases items with
  | nil =>
      cases each
      exact ⟨rfl, rfl⟩
  | cons item rest =>
      cases each with
      | cons first others =>
          obtain ⟨firstFree, firstSame⟩ := eq_ofJson_of_standsFor first
          obtain ⟨othersFree, othersSame⟩ := eq_ofItems_of_forall₂ others
          exact ⟨Bool.or_eq_false_iff.mpr ⟨firstFree, othersFree⟩, by
            rw [firstSame, othersSame, ofItems]⟩

end

theorem decode?_eq_some_iff {document : Json} {value : Value} :
    decode? document = some value ↔ StandsFor document value := by
  rw [decode?_eq]
  constructor
  · intro read
    cases free : document.hasObject with
    | true => simp [free] at read
    | false =>
        rw [free] at read
        cases read
        exact standsFor_ofJson free
  · intro stands
    obtain ⟨free, same⟩ := eq_ofJson_of_standsFor stands
    rw [free, same]
    rfl

/-! ## Writing and reading -/

mutual

/-- What is left of a value when it is written and read again. -/
def written : Value → Value
  | .null => .null
  | .bool value => .bool value
  | .int value => .int value
  | .float value => if value.isFinite then .float value else .null
  | .text value => .text value
  | .list items => .list (writtenItems items)
  | .bytes value => .list (value.map (fun byte => .int (.ofNat byte.toNat)))
  | .uuid value => .text value.text
  | .dateTime value => .text value.text

def writtenItems : List Value → List Value
  | [] => []
  | item :: rest => written item :: writtenItems rest

end

theorem fitsWord_toInt (value : Int64) : fitsWord value.toInt = true := by
  have lower := Int64.le_toInt value
  have upper := Int64.toInt_lt value
  have limit : Word.signedLimit = 9223372036854775808 := rfl
  refine Bool.and_eq_true_iff.mpr ⟨decide_eq_true ?_, decide_eq_true ?_⟩ <;> rw [limit] <;> omega

theorem ofNumber_byte (byte : UInt8) :
    ofNumber (.integer byte.toNat) = .int (.ofNat byte.toNat) := by
  have fits : fitsWord byte.toNat = true := by
    have small := byte.toNat_lt
    have limit : Word.signedLimit = 9223372036854775808 := rfl
    refine Bool.and_eq_true_iff.mpr ⟨decide_eq_true ?_, decide_eq_true ?_⟩ <;> rw [limit] <;> omega
  rw [ofNumber, if_pos fits]
  rfl

theorem ofItems_eq_map (items : List Json) : ofItems items = items.map ofJson := by
  induction items with
  | nil => rfl
  | cons item rest ih => rw [ofItems, ih, List.map_cons]

mutual

theorem ofJson_toJson (value : Value) : ofJson value.toJson = value.written := by
  cases value with
  | int value =>
      rw [toJson, ofJson, ofNumber, if_pos (fitsWord_toInt value), Int64.ofInt_toInt, written]
  | float value =>
      rw [toJson, written]
      cases value.isFinite <;> rfl
  | list items => rw [toJson, ofJson, written, ofItems_itemsToJson items]
  | bytes value =>
      rw [toJson, ofJson, written, ofItems_eq_map, List.map_map]
      refine congrArg Value.list (List.map_congr_left fun byte _ => ?_)
      rw [Function.comp_apply, ofJson, ofNumber_byte byte]
  | _ => rfl

theorem ofItems_itemsToJson (items : List Value) :
    ofItems (itemsToJson items) = writtenItems items := by
  cases items with
  | nil => rfl
  | cons item rest =>
      rw [itemsToJson, ofItems, writtenItems, ofJson_toJson item, ofItems_itemsToJson rest]

end

mutual

theorem written_ofJson {document : Json} (standard : document.isStandard = true) :
    (ofJson document).written = ofJson document := by
  cases document with
  | number number =>
      cases number with
      | integer value =>
          have finite : (Binary64.ofInt value).isFinite = true := Binary64.isFinite_ofInt standard
          cases fits : fitsWord value <;> simp [ofJson, ofNumber, fits, written, finite]
      | float value =>
          have finite : value.isFinite = true := standard
          simp [ofJson, ofNumber, written, finite]
  | array items => rw [ofJson, written, writtenItems_ofItems standard]
  | _ => rfl

theorem writtenItems_ofItems {items : List Json} (standard : Json.allStandard items = true) :
    writtenItems (ofItems items) = ofItems items := by
  cases items with
  | nil => rfl
  | cons item rest =>
      obtain ⟨first, others⟩ := Bool.and_eq_true_iff.mp standard
      rw [ofItems, writtenItems, written_ofJson first, writtenItems_ofItems others]

end

/--
A document can be read by the kinds of values exactly if it holds no object, and
then as the value it stands for, which is what its shape gives.  A value that is
written and read again has lost the marks of its kinds, and a value that was read
from a document has none to lose.
-/
theorem decoders_agree :
    (∀ document : Json, decode? document =
      if document.hasObject then none else some (ofJson document)) ∧
    (∀ (document : Json) (value : Value),
      decode? document = some value ↔ StandsFor document value) ∧
    (∀ value : Value, ofJson value.toJson = value.written) ∧
    ∀ document : Json, document.isStandard = true →
      ofJson (ofJson document).toJson = ofJson document := by
  refine ⟨decode?_eq, fun document value => decode?_eq_some_iff, ofJson_toJson, ?_⟩
  intro document standard
  rw [ofJson_toJson, written_ofJson standard]

theorem decoders_agree_nestedNumbers :
    (Json.array [.number (.integer 9223372036854775807),
      .array [.number (.integer 9223372036854775808), .array [],
        .object [("at", .number (.integer 18446744073709551615))]]]).isStandard = true ∧
    ofJson (ofJson (.array [.number (.integer 9223372036854775807),
      .array [.number (.integer 9223372036854775808), .array [],
        .object [("at", .number (.integer 18446744073709551615))]]])).toJson =
      .list [.int 9223372036854775807, .list [.float (.ofInt 9223372036854775808), .list [],
        .text (Json.object [("at", .number (.integer 18446744073709551615))]).text]] :=
  ⟨by decide, decoders_agree.2.2.2 _ (by decide)⟩

end Value

end SqlCompiler
