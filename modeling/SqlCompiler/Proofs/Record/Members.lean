import Mathlib.Data.List.Nodup
import SqlCompiler.Proofs.Json.Reading
import SqlCompiler.Proofs.Json.UniqueKeys
import SqlCompiler.Record.Basic

/-!
# The members of a record

A writer gives a record all its members in the order in which the shape lists
them, and null where there is nothing.  A reader finds each of them under its
name.  A member that is null may as well be left out, since a reader takes a
missing member and null for the same.
-/

namespace SqlCompiler

namespace Json

def isNull : Json → Bool
  | .null => true
  | _ => false

/-- An object without its members that are null, but for those under some names. -/
def withoutNulls (kept : String → Bool) : Json → Json
  | .object members => .object (members.filter fun member => kept member.1 || !member.2.isNull)
  | document => document

theorem member?_withoutNulls {members : List (String × Json)}
    (distinct : (members.map Prod.fst).Nodup) (kept : String → Bool) (name : String) :
    ((object members).withoutNulls kept).member? name =
      ((object members).member? name).filter fun value => kept name || !value.isNull := by
  rw [withoutNulls]
  induction members with
  | nil => rfl
  | cons first rest ih =>
      obtain ⟨key, value⟩ := first
      obtain ⟨fresh, distinct⟩ := List.nodup_cons.mp distinct
      have behind := ih distinct
      by_cases same : key = name
      · subst same
        have absent : (object rest).member? key = none := by
          rw [member?, Option.map_eq_none_iff, List.find?_eq_none]
          intro member found equal
          exact fresh (List.mem_map.mpr ⟨member, found, beq_iff_eq.mp equal⟩)
        rw [absent] at behind
        cases stays : kept key || !value.isNull <;>
          simp [member?_cons, Option.filter_some, stays, behind]
      · cases stays : kept key || !value.isNull <;>
          simp [member?_cons, stays, same, behind]

end Json

namespace Record

/-- The document has exactly the listed members, in their order. -/
def Shape.IsFilledBy (shape : Shape) (document : Json) : Prop :=
  ∃ members, document = .object members ∧ members.map Prod.fst = shape.names

theorem Shape.allows_of_sublist {shape : Shape} {members : List (String × Json)}
    (distinct : shape.names.Nodup) (listed : (members.map Prod.fst).Sublist shape.names) :
    shape.allows members = true := by
  have once : ∀ name, (members.filter (·.1 == name)).length ≤ 1 := by
    intro name
    have counted := List.nodup_iff_count_le_one.mp (listed.nodup distinct) name
    rwa [List.count, List.countP_map, List.countP_eq_length_filter] at counted
  simp only [allows, Bool.and_eq_true, Bool.or_eq_true, List.all_eq_true, decide_eq_true_eq]
  refine ⟨.inr fun member found => ?_, fun name _ => once name⟩
  exact List.contains_iff_mem.mpr (listed.subset (List.mem_map_of_mem found))

/-- A record holds the members of a document, where those that are null may be missing. -/
structure Shape.Holds (shape : Shape) (document record : Json) : Prop where
  accepted : shape.members? record = some record
  solid : ∀ {name content}, document.member? name = some content → content.isNull = false →
    record.member? name = some content
  hollow : ∀ {name}, document.member? name = some .null →
    record.member? name = some .null ∨ record.member? name = none

theorem Shape.IsFilledBy.holds_withoutNulls {shape : Shape} {document : Json}
    (filled : shape.IsFilledBy document) (distinct : shape.names.Nodup) (kept : String → Bool) :
    shape.Holds document (document.withoutNulls kept) := by
  obtain ⟨members, rfl, names⟩ := filled
  have read := Json.member?_withoutNulls (names ▸ distinct) kept
  have fewer := (List.filter_sublist (l := members)
    (p := fun member => kept member.1 || !member.2.isNull)).map Prod.fst
  refine ⟨if_pos (allows_of_sublist distinct (names ▸ fewer)), ?_, ?_⟩
  · intro name content found solid
    rw [read, found, Option.filter_some, solid, Bool.not_false, Bool.or_true, if_pos rfl]
  · intro name found
    rw [read, found]
    cases kept name with
    | true => exact .inl rfl
    | false => exact .inr rfl

theorem Shape.IsFilledBy.holds_self {shape : Shape} {document : Json}
    (filled : shape.IsFilledBy document) (distinct : shape.names.Nodup) :
    shape.Holds document document := by
  obtain ⟨members, rfl, names⟩ := filled
  exact ⟨if_pos (allows_of_sublist distinct (names ▸ .refl _)), fun found _ => found, .inl⟩

theorem nullable?_of_solid {α : Type} {decode : Json → Option α} {document : Json}
    (solid : document.isNull = false) : nullable? decode document = (decode document).map some := by
  cases document with
  | null => cases solid
  | _ => rfl

namespace Shape.Holds

variable {shape : Shape} {document record : Json} (holds : shape.Holds document record)
  {α : Type} {name : String} {decode : Json → Option α}

include holds

theorem required? {content : Json} {value : α} (found : document.member? name = some content)
    (solid : content.isNull = false) (read : decode content = some value) :
    Record.required? record name decode = some value := by
  rw [Record.required?, holds.solid found solid]
  exact read

theorem withDefault? {content : Json} {value missing : α}
    (found : document.member? name = some content) (solid : content.isNull = false)
    (read : decode content = some value) :
    Record.withDefault? record name missing decode = some value := by
  rw [Record.withDefault?, holds.solid found solid]
  exact read

/-- Where there is nothing, the member is null or missing, and nothing is read. -/
theorem optional? {encode : α → Json} {value : Option α}
    (found : document.member? name = some (ofNullable encode value))
    (solid : ∀ content, (encode content).isNull = false)
    (read : ∀ content, value = some content → decode (encode content) = some content) :
    Record.optional? record name decode = some value := by
  cases value with
  | none =>
      rw [Record.optional?, Record.withDefault?]
      obtain null | missing := holds.hollow found
      · rw [null]
        rfl
      · rw [missing]
  | some content =>
      rw [Record.optional?, Record.withDefault?, holds.solid found (solid content)]
      change nullable? decode (encode content) = _
      rw [nullable?_of_solid (solid content), read content rfl]
      rfl

end Shape.Holds

/-! ## Texts -/

theorem isReadable_ofCount {value : Nat} (small : value < Word.unsignedLimit) (depth : Nat) :
    (ofCount value).isReadable depth = true := by
  have lower : -(Word.signedLimit : Int) ≤ (value : Int) :=
    Int.le_trans (Int.neg_nonpos_of_nonneg (Int.natCast_nonneg _)) (Int.natCast_nonneg value)
  simp only [ofCount, Json.isReadable, Word.holds, Bool.and_eq_true, decide_eq_true_eq]
  exact ⟨lower, Int.ofNat_lt.mpr small⟩

theorem isReadable_ofNullable {α : Type} {encode : α → Json} {value : Option α} {depth : Nat}
    (readable : ∀ content, value = some content → (encode content).isReadable depth = true) :
    (ofNullable encode value).isReadable depth = true := by
  cases value with
  | none => rfl
  | some content => exact readable content rfl

theorem Shape.IsFilledBy.readExcerpt?_text {shape : Shape} {document : Json}
    (filled : shape.IsFilledBy document) (readable : document.isReadable 0 = true) :
    Json.readExcerpt? shape.names document.text = some document := by
  obtain ⟨members, rfl, names⟩ := filled
  rw [Json.isReadable, Bool.and_eq_true] at readable
  refine Json.readExcerpt?_text readable.2 fun member found => ?_
  rw [← names]
  exact List.mem_map_of_mem found

end Record

end SqlCompiler
