import Mathlib.Data.String.Basic

/-!
# Slices of a text by byte positions

A text is stored as the bytes of UTF-8, and a position in it counts bytes.  A
position is a boundary if it lies between two characters or at an end of the
text.  A slice can be taken between two boundaries only; any other one would
cut a character or reach beyond the text, and does not exist.

Boundaries are found by looking at single bytes.  What they mean is said in
terms of characters: a boundary is the number of bytes of an initial part, and
a slice is what stands between two such parts.
-/

namespace SqlCompiler

namespace Text

/-- A byte position lies between two characters or at an end of the text. -/
def isBoundary (text : String) (position : Nat) : Bool :=
  String.Pos.Raw.isValid text ⟨position⟩

/-- The text between two byte positions, unless one of them is no boundary. -/
def slice? (text : String) (first last : Nat) : Option String :=
  if isBoundary text first ∧ isBoundary text last ∧ first ≤ last then
    some (String.Pos.Raw.extract text ⟨first⟩ ⟨last⟩)
  else none

theorem isBoundary_iff {text : String} {position : Nat} :
    isBoundary text position = true ↔
      ∃ front back : String, text = front ++ back ∧ position = front.utf8ByteSize := by
  rw [isBoundary, String.Pos.Raw.isValid_eq_true_iff, String.Pos.Raw.isValid_iff_exists_append]
  simp only [String.Pos.Raw.ext_iff, String.byteIdx_rawEndPos]

theorem isBoundary_append (front back : String) :
    isBoundary (front ++ back) front.utf8ByteSize = true :=
  isBoundary_iff.mpr ⟨front, back, rfl, rfl⟩

/-- The slice between the ends of two initial parts is what the longer one adds. -/
theorem slice?_append (front middle back : String) :
    slice? (front ++ middle ++ back) front.utf8ByteSize (front ++ middle).utf8ByteSize =
      some middle := by
  have start : isBoundary (front ++ middle ++ back) front.utf8ByteSize = true := by
    rw [String.append_assoc]
    exact isBoundary_append front (middle ++ back)
  have stop := isBoundary_append (front ++ middle) back
  have order : front.utf8ByteSize ≤ (front ++ middle).utf8ByteSize := by
    simp [String.utf8ByteSize_append]
  rw [slice?, if_pos ⟨start, stop, order⟩]
  have valid := String.extract_of_valid front.toList middle.toList back.toList
  simpa [← String.utf8ByteSize_ofList, String.utf8ByteSize_append, String.append_assoc] using valid

theorem extract_of_slice? {text slice : String} {first last : Nat}
    (cut : slice? text first last = some slice) :
    String.Pos.Raw.extract text ⟨first⟩ ⟨last⟩ = slice := by
  unfold slice? at cut
  split at cut
  next => exact Option.some.inj cut
  next => cases cut

/-- The number of bytes of some characters. -/
def size (characters : List Char) : Nat :=
  (String.ofList characters).utf8ByteSize

@[simp]
theorem size_toList (text : String) : size text.toList = text.utf8ByteSize := by
  rw [size, String.ofList_toList]

@[simp]
theorem size_append (first second : List Char) :
    size (first ++ second) = size first + size second := by
  simp [size, String.utf8ByteSize_append]

@[simp]
theorem size_singleton (c : Char) : size [c] = c.utf8Size := by
  simp [size]

theorem eq_nil_of_size_eq_zero {characters : List Char} (empty : size characters = 0) :
    characters = [] := by
  have none : String.ofList characters = "" := String.utf8ByteSize_eq_zero_iff.mp empty
  simpa using congrArg String.toList none

theorem slice?_of_toList {text : String} {front middle back : List Char}
    (whole : text.toList = front ++ middle ++ back) :
    slice? text (size front) (size (front ++ middle)) = some (.ofList middle) := by
  have parts : text = .ofList front ++ .ofList middle ++ .ofList back :=
    String.toList_inj.mp (by simpa using whole)
  rw [parts, size, size, String.ofList_append]
  exact slice?_append _ _ _

end Text

end SqlCompiler
