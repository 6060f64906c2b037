import SqlCompiler.Bag
import SqlCompiler.Proofs.Comparator.Form
import SqlCompiler.Proofs.Error.InOrder
import SqlCompiler.Proofs.Json.UniqueKeys

/-!
# Bags are read member by member

Fields, sort keys and comparators are read from bags, one from each member and
in the order of the members, and a filter joins the comparators of its bag.  A
member is read by itself: whether it is accepted, what it becomes and why it is
refused are the same as when it is the only one.  So a bag is accepted if it
has a member and each of them is accepted, and otherwise it is refused as the
first member that is not.
-/

namespace SqlCompiler

/-! ## Single members -/

namespace Field

/-- A field from a bag has the name of its member and declares no type. -/
structure IsReadFrom (member : String × Json) (field : Field) : Prop where
  notBlank : Text.isBlank member.1 = false
  name_eq : field.name = member.1
  type_eq : field.type = none

theorem ofName_eq_ok_iff_isReadFrom {member : String × Json} {field : Field} :
    ofName member.1 = .ok field ↔ field.IsReadFrom member := by
  rw [ofName_eq_ok_iff]
  constructor
  · rintro ⟨notBlank, rfl⟩
    exact ⟨notBlank, rfl, rfl⟩
  · rintro ⟨notBlank, named, untyped⟩
    cases field
    cases named
    cases untyped
    exact ⟨notBlank, rfl⟩

end Field

namespace SortKey

/-- A sort key from a bag has the name of its member and the direction that its value names. -/
structure IsReadFrom (member : String × Json) (key : SortKey) : Prop where
  notBlank : Text.isBlank member.1 = false
  name_eq : key.name = member.1
  direction : ∃ direction, member.2 = .string direction ∧ SortOrder.parse direction = .ok key.order

theorem ofMember_eq_ok_iff {member : String × Json} {key : SortKey} :
    ofMember member = .ok key ↔ key.IsReadFrom member := by
  obtain ⟨name, value⟩ := member
  cases value with
  | string direction =>
      change (SortOrder.parse direction >>= fun order => make name order) = .ok key ↔ _
      simp only [make, bind_eq_ok_iff, Field.ofName_eq_ok_iff]
      constructor
      · rintro ⟨order, parsed, field, ⟨notBlank, rfl⟩, made⟩
        cases made
        exact ⟨notBlank, rfl, direction, rfl, parsed⟩
      · rintro ⟨notBlank, named, found, same, parsed⟩
        cases same
        cases key
        cases named
        exact ⟨_, parsed, _, ⟨notBlank, rfl⟩, rfl⟩
  | _ =>
      constructor
      · intro read
        cases read
      · rintro ⟨-, -, direction, text, -⟩
        cases text

end SortKey

namespace Comparator

/--
A comparator from a bag compares the column that its member names: with a value
that is no object for equality, and with an object as the object says.
-/
inductive IsReadFrom : String × Json → Comparator → Prop where
  | value {name : String} {value : Json} (notBlank : Text.isBlank name = false)
      (plain : ∀ inner, value ≠ .object inner) :
      IsReadFrom (name, value)
        { field := { name }, comparison := .equal, value := .ofJson value, kind := .plain }
  | comparison {name operation : String} {inner : List (String × Json)}
      {comparison : Comparison} {value : Value} (notBlank : Text.isBlank name = false)
      (named : (Json.object inner).member? "operation" = some (.string operation))
      (parsed : Comparison.parse operation = .ok comparison)
      (compared : ((Json.object inner).member? "value").elim .null Value.ofJson = value)
      (range : comparison.isRange = true → ∃ first last, value = .list [first, last])
      (list : comparison.isList = true → ∃ items, value = .list items) :
      IsReadFrom (name, .object inner) { field := { name }, comparison, value, kind := .plain }

theorem valueFits_iff {comparison : Comparison} {value : Value} :
    valueFits comparison value = true ↔
      (comparison.isRange = true → ∃ first last, value = .list [first, last]) ∧
        (comparison.isList = true → ∃ items, value = .list items) := by
  constructor
  · intro fits
    exact ⟨fun range => exists_pair_of_valueFits range fits,
      fun list => exists_list_of_valueFits list fits⟩
  · rintro ⟨range, list⟩
    refine Bool.and_eq_true_iff.mpr ⟨?_, ?_⟩
    · cases ranged : comparison.isRange with
      | false => rfl
      | true =>
          obtain ⟨first, last, rfl⟩ := range ranged
          rfl
    · cases listed : comparison.isList with
      | false => rfl
      | true =>
          obtain ⟨items, rfl⟩ := list listed
          rfl

theorem make_eq_ok_iff {name : String} {comparison : Comparison} {value : Value}
    {comparator : Comparator} :
    make name comparison value = .ok comparator ↔
      Text.isBlank name = false ∧ valueFits comparison value = true ∧
        comparator = { field := { name }, comparison, value, kind := .plain } := by
  simp only [make, ofKind, bind_eq_ok_iff, Field.ofName_eq_ok_iff]
  constructor
  · rintro ⟨field, ⟨notBlank, rfl⟩, ⟨⟩, checked, made⟩
    have fits := (checkValue_eq_ok_iff name comparison value).mp checked
    exact ⟨notBlank, fits, (Except.ok.inj made).symm⟩
  · rintro ⟨notBlank, fits, rfl⟩
    exact ⟨_, ⟨notBlank, rfl⟩, (), (checkValue_eq_ok_iff name comparison value).mpr fits, rfl⟩

/-- A member that is an object names its comparison, and may leave out its value. -/
theorem ofMember_object {name : String} {inner : List (String × Json)} {comparator : Comparator} :
    ofMember (name, .object inner) = .ok comparator ↔
      ∃ operation comparison, (Json.object inner).member? "operation" = some (.string operation) ∧
        Comparison.parse operation = .ok comparison ∧
        make name comparison (((Json.object inner).member? "value").elim .null Value.ofJson) =
          .ok comparator := by
  cases named : (Json.object inner).member? "operation" with
  | none => simp only [ofMember, named, reduceCtorEq, false_and, exists_false]
  | some operation =>
      cases operation with
      | string operation =>
          simp only [ofMember, named, bind_eq_ok_iff, Option.some.injEq, Json.string.injEq]
          exact ⟨fun ⟨comparison, read⟩ => ⟨operation, comparison, rfl, read⟩,
            fun ⟨_, comparison, same, read⟩ => ⟨comparison, same ▸ read⟩⟩
      | _ =>
          simp only [ofMember, named, Option.some.injEq, reduceCtorEq, false_and, exists_false]

theorem ofMember_eq_ok_iff {member : String × Json} {comparator : Comparator} :
    ofMember member = .ok comparator ↔ IsReadFrom member comparator := by
  obtain ⟨name, value⟩ := member
  cases value with
  | object inner =>
      rw [ofMember_object]
      constructor
      · rintro ⟨operation, comparison, named, parsed, made⟩
        obtain ⟨notBlank, fits, rfl⟩ := make_eq_ok_iff.mp made
        obtain ⟨range, list⟩ := valueFits_iff.mp fits
        exact .comparison notBlank named parsed rfl range list
      · rintro (⟨_, plain⟩ | ⟨notBlank, named, parsed, rfl, range, list⟩)
        · exact absurd rfl (plain inner)
        · have fits := valueFits_iff.mpr ⟨range, list⟩
          exact ⟨_, _, named, parsed, make_eq_ok_iff.mpr ⟨notBlank, fits, rfl⟩⟩
  | _ =>
      change equal name (.ofJson _) = .ok comparator ↔ _
      rw [equal, make_eq_ok_iff]
      constructor
      · rintro ⟨notBlank, -, rfl⟩
        exact .value notBlank (by simp)
      · rintro (⟨notBlank, plain⟩ | _)
        exact ⟨notBlank, rfl, rfl⟩

end Comparator

namespace Bag

/-! ## All members -/

/--
A reader of bags reads the members of an object one by one, in order, and
gathers what they become; it refuses everything that is no object.
-/
structure ReadsInOrder {Item Result : Type} (read : Json → Except CompileError Result)
    (gather : List Item → Result) (IsReadFrom : String × Json → Item → Prop) : Prop where
  accepted (members : List (String × Json)) :
    (∃ result, read (.object members) = .ok result) ↔
      members ≠ [] ∧ ∀ member ∈ members, ∃ result, read (.object [member]) = .ok result
  items (members : List (String × Json)) (result : Result) :
    read (.object members) = .ok result ↔
      members ≠ [] ∧ ∃ items, List.Forall₂ IsReadFrom members items ∧ result = gather items
  refused (members : List (String × Json)) (error : CompileError) :
    read (.object members) = .error error ↔
      members = [] ∧ error = .bagWithoutMembers ∨
        ∃ before member after, members = before ++ member :: after ∧
          read (.object [member]) = .error error ∧
          ∀ earlier ∈ before, ∃ result, read (.object [earlier]) = .ok result
  object (bag : Json) (other : ∀ members, bag ≠ .object members) :
    ∃ error, read bag = .error error ∧ error.kind = .invalidOperation

section Reader

variable {Item Result : Type} {read : Json → Except CompileError Result}
  {gather : List Item → Result} {IsReadFrom : String × Json → Item → Prop}
  {readMember : String × Json → Except CompileError Item}
  (steps : ∀ bag, read bag =
    members bag >>= fun members => (members.mapM readMember).map gather)

include steps

theorem read_several (first : String × Json) (rest : List (String × Json)) :
    read (.object (first :: rest)) = ((first :: rest).mapM readMember).map gather :=
  steps _

theorem read_single (member : String × Json) :
    read (.object [member]) = (readMember member).map (fun item => gather [item]) := by
  rw [read_several steps, List.mapM_cons, List.mapM_nil]
  cases readMember member <;> rfl

theorem read_single_eq_ok_iff (member : String × Json) :
    (∃ result, read (.object [member]) = .ok result) ↔ ∃ item, readMember member = .ok item := by
  simp only [read_single steps, map_eq_ok_iff]
  exact ⟨fun ⟨_, item, accepted, _⟩ => ⟨item, accepted⟩,
    fun ⟨item, accepted⟩ => ⟨_, item, accepted, rfl⟩⟩

theorem read_eq_ok_iff
    (each : ∀ {member item}, readMember member = .ok item ↔ IsReadFrom member item)
    (members : List (String × Json)) (result : Result) :
    read (.object members) = .ok result ↔
      members ≠ [] ∧ ∃ items, List.Forall₂ IsReadFrom members items ∧ result = gather items := by
  cases members with
  | nil =>
      have empty : read (.object []) = .error .bagWithoutMembers := steps _
      simp [empty]
  | cons first rest =>
      rw [read_several steps, map_eq_ok_iff]
      simp only [mapM_eq_ok_iff, each, ne_eq, reduceCtorEq, not_false_eq_true, true_and,
        eq_comm (a := result)]

theorem read_eq_error_iff (members : List (String × Json)) (error : CompileError) :
    read (.object members) = .error error ↔
      members = [] ∧ error = .bagWithoutMembers ∨
        ∃ before member after, members = before ++ member :: after ∧
          read (.object [member]) = .error error ∧
          ∀ earlier ∈ before, ∃ result, read (.object [earlier]) = .ok result := by
  cases members with
  | nil =>
      have empty : read (.object []) = .error .bagWithoutMembers := steps _
      simp [empty, eq_comm]
  | cons first rest =>
      rw [read_several steps, map_eq_error_iff, mapM_eq_error_iff]
      simp only [read_single_eq_ok_iff steps, reduceCtorEq, false_and, false_or]
      simp only [read_single steps, map_eq_error_iff]

/-- A reader that reads the members by one function reads them in order. -/
theorem readsInOrder
    (each : ∀ {member item}, readMember member = .ok item ↔ IsReadFrom member item) :
    ReadsInOrder read gather IsReadFrom where
  accepted members := by
    simp only [read_single_eq_ok_iff steps]
    simp only [read_eq_ok_iff steps each, each]
    rw [← exists_forall₂_iff]
    exact ⟨fun ⟨_, nonempty, items, read, _⟩ => ⟨nonempty, items, read⟩,
      fun ⟨nonempty, items, read⟩ => ⟨_, nonempty, items, read, rfl⟩⟩
  items := read_eq_ok_iff steps each
  refused := read_eq_error_iff steps
  object bag other := by
    cases bag with
    | object members => exact absurd rfl (other members)
    | _ => exact ⟨_, steps _, rfl⟩

end Reader

end Bag

end SqlCompiler
