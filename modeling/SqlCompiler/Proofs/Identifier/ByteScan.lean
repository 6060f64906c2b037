import SqlCompiler.Identifier
import SqlCompiler.Proofs.Text.Slices

/-!
# Scanning a name by byte positions

A name is scanned from left to right by a position that counts bytes.  Each
round looks at the rest of the name behind the position and goes on by an
opening quote, one or two closing quotes, a separator or one character.  Rests
and segments are slices of the name, and a slice only exists between two
boundaries of characters.

For any quotes and any separator, also for empty, equal and overlapping ones
and for such with characters of several bytes, every round reads whole
characters, and at least one of them.  So the scan ends, all its slices exist,
and the segments that it cuts are those of the name.  Joined by the separator
they are the name.
-/

namespace SqlCompiler

namespace Setting

/-- What a round of the scan does with the bytes that it reads. -/
inductive Round where
  /-- They belong to the segment; the scan goes on inside or outside quotes. -/
  | read (bytes : Nat) (quoted : Bool)
  /-- They end the segment. -/
  | cut (bytes : Nat)

def Round.bytes : Round → Nat
  | .read bytes _ => bytes
  | .cut bytes => bytes

/-- The rest of a name starts with a quote or a separator that is not empty. -/
def Meets (mark rest : String) : Prop :=
  mark ≠ "" ∧ mark.toList.isPrefixOf rest.toList
  deriving Decidable

/-- How many bytes the first character has. -/
def firstSize (rest : String) : Nat :=
  rest.toList.head?.elim 1 Char.utf8Size

/-- The round at a rest of a name, unless it takes a slice that does not exist. -/
def round? (setting : Setting) (quoted : Bool) (rest : String) : Option Round :=
  if quoted = false ∧ Meets setting.openingQuote rest then
    some (.read setting.openingQuote.utf8ByteSize true)
  else if quoted = true ∧ Meets setting.closingQuote rest then
    (Text.slice? rest setting.closingQuote.utf8ByteSize rest.utf8ByteSize).map fun behind =>
      if setting.closingQuote.toList.isPrefixOf behind.toList then
        .read (setting.closingQuote.utf8ByteSize * 2) true
      else .read setting.closingQuote.utf8ByteSize false
  else if quoted = false ∧ Meets setting.nameSeparator rest then
    some (.cut setting.nameSeparator.utf8ByteSize)
  else some (.read (firstSize rest) quoted)

theorem Meets.utf8ByteSize_pos {mark rest : String} (meets : Meets mark rest) :
    0 < mark.utf8ByteSize := by
  refine Nat.pos_of_ne_zero fun empty => meets.1 ?_
  exact String.utf8ByteSize_eq_zero_iff.mp empty

theorem firstSize_pos (rest : String) : 0 < firstSize rest := by
  unfold firstSize
  cases rest.toList with
  | nil => exact Nat.one_pos
  | cons c others => exact c.utf8Size_pos

/-- Every round goes on, for an empty mark is never met. -/
theorem bytes_pos_of_round? {setting : Setting} {quoted : Bool} {rest : String} {round : Round}
    (found : setting.round? quoted rest = some round) : 0 < round.bytes := by
  unfold round? at found
  split at found
  next opening =>
    cases found
    exact opening.2.utf8ByteSize_pos
  next =>
    split at found
    next closing =>
      have size := closing.2.utf8ByteSize_pos
      obtain ⟨behind, -, rfl⟩ := Option.map_eq_some_iff.mp found
      split
      · exact Nat.mul_pos size Nat.two_pos
      · exact size
    next =>
      split at found
      next separator =>
        cases found
        exact separator.2.utf8ByteSize_pos
      next =>
        cases found
        exact firstSize_pos rest

/-- The round at a position of a name. -/
def roundAt? (setting : Setting) (name : String) (quoted : Bool) (position : Nat) :
    Option Round :=
  (Text.slice? name position name.utf8ByteSize).bind (setting.round? quoted)

theorem bytes_pos_of_roundAt? {setting : Setting} {name : String} {quoted : Bool} {position : Nat}
    {round : Round} (found : setting.roundAt? name quoted position = some round) :
    0 < round.bytes := by
  obtain ⟨rest, -, round⟩ := Option.bind_eq_some_iff.mp found
  exact bytes_pos_of_round? round

/--
Cut the rest of a name into segments, going on from a byte position.

`first` is the position where the current segment starts.  Nothing is returned
if a slice does not exist.
-/
def scanFrom? (setting : Setting) (name : String) (quoted : Bool) (first position : Nat) :
    Option (List String) :=
  if position < name.utf8ByteSize then
    match found : setting.roundAt? name quoted position with
    | none => none
    | some (.read bytes inside) =>
        have _progress : 0 < bytes := bytes_pos_of_roundAt? found
        setting.scanFrom? name inside first (position + bytes)
    | some (.cut bytes) =>
        have _progress : 0 < bytes := bytes_pos_of_roundAt? found
        (Text.slice? name first position).bind fun segment =>
          (setting.scanFrom? name false (position + bytes) (position + bytes)).map (segment :: ·)
  else (Text.slice? name first name.utf8ByteSize).map ([·])
termination_by name.utf8ByteSize - position

/-- Cut a name into segments by byte positions. -/
def scan? (setting : Setting) (name : String) : Option (List String) :=
  setting.scanFrom? name false 0 0

theorem meets_ofList {mark : String} {rest : List Char} :
    Meets mark (.ofList rest) ↔ mark.toList ≠ [] ∧ mark.toList.isPrefixOf rest = true := by
  simp [Meets, String.toList_eq_nil_iff]

theorem slice?_behind {mark rest : List Char} (start : mark <+: rest) :
    Text.slice? (.ofList rest) (Text.size mark) (String.ofList rest).utf8ByteSize =
      some (.ofList (rest.drop mark.length)) := by
  have whole : (String.ofList rest).toList = mark ++ rest.drop mark.length ++ [] := by
    simpa using (List.prefix_iff_eq_append.mp start).symm
  rw [← Text.size_toList, whole, List.append_nil]
  exact Text.slice?_of_toList whole

theorem length_drop_lt {mark rest : List Char} (more : rest ≠ []) (notEmpty : mark ≠ []) :
    (rest.drop mark.length).length < rest.length := by
  have positive := List.length_pos_iff.mpr notEmpty
  have available := List.length_pos_iff.mpr more
  rw [List.length_drop]
  omega

/--
A round reads some first characters of the rest, and the scan by characters
reads the same ones: it adds them to the segment or ends the segment.
-/
theorem exists_round (setting : Setting) (quoted : Bool) (segment : List Char) {rest : List Char}
    (more : rest ≠ []) :
    ∃ mark, mark ≠ [] ∧ mark <+: rest ∧
      ((∃ inside, setting.round? quoted (.ofList rest) = some (.read (Text.size mark) inside) ∧
          setting.segmentsFrom quoted segment rest =
            setting.segmentsFrom inside (segment ++ mark) (rest.drop mark.length)) ∨
        (mark = setting.nameSeparator.toList ∧
          setting.round? quoted (.ofList rest) = some (.cut (Text.size mark)) ∧
          setting.segmentsFrom quoted segment rest =
            segment :: setting.segmentsFrom false [] (rest.drop mark.length))) := by
  unfold round?
  simp only [meets_ofList]
  fun_cases setting.segmentsFrom quoted segment rest with
  | case1 => exact absurd rfl more
  | case2 c rest opening found =>
      refine ⟨opening, found.2.1, List.isPrefixOf_iff_prefix.mp found.2.2, .inl ⟨true, ?_, rfl⟩⟩
      rw [if_pos found, Text.size_toList]
  | case3 c rest opening closing notOpening found doubled =>
      have start := List.isPrefixOf_iff_prefix.mp found.2.2
      have twice : closing ++ closing <+: c :: rest := by
        rw [← List.prefix_iff_eq_append.mp start]
        exact (List.prefix_append_right_inj closing).mpr (List.isPrefixOf_iff_prefix.mp doubled)
      have behind := slice?_behind start
      rw [Text.size_toList] at behind
      refine ⟨closing ++ closing, by simp [found.2.1], twice, .inl ⟨true, ?_, rfl⟩⟩
      rw [if_neg notOpening, if_pos found, behind, Option.map_some, String.toList_ofList,
        if_pos doubled, Text.size_append, Text.size_toList, Nat.mul_two]
  | case4 c rest opening closing notOpening found single =>
      have start := List.isPrefixOf_iff_prefix.mp found.2.2
      have behind := slice?_behind start
      rw [Text.size_toList] at behind
      refine ⟨closing, found.2.1, start, .inl ⟨false, ?_, rfl⟩⟩
      rw [if_neg notOpening, if_pos found, behind, Option.map_some, String.toList_ofList,
        if_neg single, Text.size_toList]
  | case5 c rest opening closing separator notOpening notClosing found =>
      refine ⟨separator, found.2.1, List.isPrefixOf_iff_prefix.mp found.2.2, .inr ⟨rfl, ?_, rfl⟩⟩
      rw [if_neg notOpening, if_neg notClosing, if_pos found, Text.size_toList]
  | case6 c rest opening closing separator notOpening notClosing notSeparator =>
      refine ⟨[c], List.cons_ne_nil c [], ⟨rest, rfl⟩, .inl ⟨quoted, ?_, rfl⟩⟩
      rw [if_neg notOpening, if_neg notClosing, if_neg notSeparator, firstSize,
        String.toList_ofList, Text.size_singleton]
      rfl

section Scan

variable {setting : Setting} {name : String} {quoted : Bool} {first position bytes : Nat}

theorem scanFrom?_end (done : name.utf8ByteSize ≤ position) :
    setting.scanFrom? name quoted first position =
      (Text.slice? name first name.utf8ByteSize).map ([·]) := by
  rw [scanFrom?, if_neg (Nat.not_lt.mpr done)]

theorem scanFrom?_read {inside : Bool} (more : position < name.utf8ByteSize)
    (found : setting.roundAt? name quoted position = some (.read bytes inside)) :
    setting.scanFrom? name quoted first position =
      setting.scanFrom? name inside first (position + bytes) := by
  rw [scanFrom?, if_pos more]
  split <;> simp_all

theorem scanFrom?_cut (more : position < name.utf8ByteSize)
    (found : setting.roundAt? name quoted position = some (.cut bytes)) :
    setting.scanFrom? name quoted first position =
      (Text.slice? name first position).bind fun segment =>
        (setting.scanFrom? name false (position + bytes) (position + bytes)).map
          (segment :: ·) := by
  rw [scanFrom?, if_pos more]
  split <;> simp_all

end Scan

section Parts

variable {name : String} {front segment rest : List Char}
  (whole : name.toList = front ++ segment ++ rest)
include whole

theorem slice?_rest :
    Text.slice? name (Text.size (front ++ segment)) name.utf8ByteSize = some (.ofList rest) := by
  rw [← Text.size_toList name, whole]
  exact Text.slice?_of_toList (by rw [whole, List.append_nil])

theorem roundAt?_eq (setting : Setting) (quoted : Bool) :
    setting.roundAt? name quoted (Text.size (front ++ segment)) =
      setting.round? quoted (.ofList rest) := by
  rw [roundAt?, slice?_rest whole, Option.bind_some]

theorem size_lt_utf8ByteSize (more : rest ≠ []) :
    Text.size (front ++ segment) < name.utf8ByteSize := by
  obtain ⟨c, others, rfl⟩ := List.exists_cons_of_ne_nil more
  have first := c.utf8Size_pos
  rw [← Text.size_toList name, whole, ← List.singleton_append]
  simp only [Text.size_append, Text.size_singleton]
  omega

/-- The scan by byte positions cuts a name where the scan by characters does. -/
theorem scanFrom?_eq (setting : Setting) (quoted : Bool) :
    setting.scanFrom? name quoted (Text.size front) (Text.size (front ++ segment)) =
      some ((setting.segmentsFrom quoted segment rest).map String.ofList) := by
  induction length : rest.length using Nat.strong_induction_on
    generalizing front segment rest quoted with
  | _ length ih =>
    subst length
    by_cases more : rest = []
    · subst more
      have all : Text.size (front ++ segment) = name.utf8ByteSize := by
        rw [← Text.size_toList name, whole, List.append_nil]
      have last := Text.slice?_of_toList whole
      rw [all] at last ⊢
      rw [scanFrom?_end (Nat.le_refl _), last, segmentsFrom]
      rfl
    · obtain ⟨mark, notEmpty, start, ⟨inside, round, chars⟩ | ⟨-, round, chars⟩⟩ :=
        setting.exists_round quoted segment more
      all_goals
        have shorter := length_drop_lt more notEmpty
        have parts := List.prefix_iff_eq_append.mp start
        have found := (roundAt?_eq whole setting quoted).trans round
        rw [chars]
      · have behind : name.toList = front ++ (segment ++ mark) ++ rest.drop mark.length := by
          simp [whole, parts]
        rw [scanFrom?_read (size_lt_utf8ByteSize whole more) found, ← Text.size_append,
          List.append_assoc]
        exact ih _ shorter behind inside rfl
      · have behind : name.toList = front ++ segment ++ mark ++ [] ++ rest.drop mark.length := by
          simp [whole, parts]
        have later := ih _ shorter behind false rfl
        rw [List.append_nil] at later
        rw [scanFrom?_cut (size_lt_utf8ByteSize whole more) found, Text.slice?_of_toList whole,
          ← Text.size_append, Option.bind_some, later]
        rfl

end Parts

/-- The segments of a name joined by the separator are the name. -/
theorem intercalate_segmentsFrom (setting : Setting) (quoted : Bool) (segment rest : List Char) :
    setting.nameSeparator.toList.intercalate (setting.segmentsFrom quoted segment rest) =
      segment ++ rest := by
  induction length : rest.length using Nat.strong_induction_on
    generalizing segment rest quoted with
  | _ length ih =>
    subst length
    by_cases more : rest = []
    · subst more
      rw [segmentsFrom, List.intercalate_singleton, List.append_nil]
    · obtain ⟨mark, notEmpty, start, ⟨inside, -, chars⟩ | ⟨separator, -, chars⟩⟩ :=
        setting.exists_round quoted segment more
      all_goals
        have shorter := length_drop_lt more notEmpty
        have parts := List.prefix_iff_eq_append.mp start
        rw [chars]
      · rw [ih _ shorter _ _ _ rfl, List.append_assoc, parts]
      · rw [List.intercalate_cons_of_ne_nil (setting.segmentsFrom_ne_nil _ _ _),
          ih _ shorter _ _ _ rfl, ← separator, List.nil_append, List.append_assoc, parts]

/-- The test for quotes around a segment, with lengths in bytes. -/
def isQuotedInBytes (setting : Setting) (segment : String) : Bool :=
  setting.openingQuote.utf8ByteSize + setting.closingQuote.utf8ByteSize ≤ segment.utf8ByteSize &&
    setting.openingQuote.toList.isPrefixOf segment.toList &&
    setting.closingQuote.toList.isSuffixOf segment.toList

/-- The slice of a segment between its quotes, unless it has not so many bytes. -/
def sliceInside? (setting : Setting) (segment : String) : Option String :=
  if setting.closingQuote.utf8ByteSize ≤ segment.utf8ByteSize then
    Text.slice? segment setting.openingQuote.utf8ByteSize
      (segment.utf8ByteSize - setting.closingQuote.utf8ByteSize)
  else none

/-- A front and a back for which a text has room, in any measure, do not overlap. -/
theorem exists_between {measure : List Char → Nat} {opening closing segment : List Char}
    (append : ∀ first second, measure (first ++ second) = measure first + measure second)
    (zero : ∀ characters, measure characters = 0 → characters = [])
    (room : measure opening + measure closing ≤ measure segment)
    (starts : opening <+: segment) (ends : closing <:+ segment) :
    ∃ inner, segment = opening ++ inner ++ closing := by
  obtain ⟨back, whole⟩ := starts
  obtain ⟨front, rfl⟩ := ends
  rcases List.append_eq_append_iff.mp whole with ⟨inner, rfl, rfl⟩ | ⟨overlap, rfl, rfl⟩
  · exact ⟨inner, rfl⟩
  · simp only [append] at room
    have none : overlap = [] := zero overlap (by omega)
    exact ⟨[], by simp [none]⟩

theorem isQuoted_iff_exists (setting : Setting) (segment : List Char) :
    setting.isQuoted segment = true ↔
      ∃ inner, segment = setting.openingQuote.toList ++ inner ++ setting.closingQuote.toList := by
  simp only [isQuoted, Bool.and_eq_true, decide_eq_true_eq, List.isPrefixOf_iff_prefix,
    List.isSuffixOf_iff_suffix]
  constructor
  · rintro ⟨⟨room, starts⟩, ends⟩
    exact exists_between (fun _ _ => List.length_append) (fun _ => List.length_eq_zero_iff.mp)
      room starts ends
  · rintro ⟨inner, rfl⟩
    exact ⟨⟨by simp, by simp⟩, List.suffix_append _ _⟩

theorem isQuotedInBytes_iff_exists (setting : Setting) (segment : String) :
    setting.isQuotedInBytes segment = true ↔
      ∃ inner, segment.toList =
        setting.openingQuote.toList ++ inner ++ setting.closingQuote.toList := by
  simp only [isQuotedInBytes, Bool.and_eq_true, decide_eq_true_eq, List.isPrefixOf_iff_prefix,
    List.isSuffixOf_iff_suffix, ← Text.size_toList]
  constructor
  · rintro ⟨⟨room, starts⟩, ends⟩
    exact exists_between Text.size_append (fun _ => Text.eq_nil_of_size_eq_zero) room starts ends
  · rintro ⟨inner, whole⟩
    rw [whole]
    exact ⟨⟨by simp, by simp⟩, List.suffix_append _ _⟩

theorem isQuotedInBytes_eq (setting : Setting) (segment : String) :
    setting.isQuotedInBytes segment = setting.isQuoted segment.toList :=
  Bool.eq_iff_iff.mpr
    ((setting.isQuotedInBytes_iff_exists segment).trans
      (setting.isQuoted_iff_exists segment.toList).symm)

theorem sliceInside?_of_isQuoted {setting : Setting} {segment : String}
    (quoted : setting.isQuoted segment.toList = true) :
    setting.sliceInside? segment = some (.ofList (setting.insideQuotes segment.toList)) := by
  obtain ⟨inner, whole⟩ := (setting.isQuoted_iff_exists _).mp quoted
  have size : segment.utf8ByteSize =
      Text.size (setting.openingQuote.toList ++ inner) + setting.closingQuote.utf8ByteSize := by
    rw [← Text.size_toList segment, whole, Text.size_append, Text.size_toList]
  have inside : setting.insideQuotes segment.toList = inner := by
    simp [insideQuotes, whole]
  rw [sliceInside?, if_pos (by omega), size, Nat.add_sub_cancel, inside, ← Text.size_toList]
  exact Text.slice?_of_toList whole

/--
The scan by byte positions takes only slices that exist and cuts a name into
its segments, which are the name when they are joined by the separator.  And
whatever segment is judged as quoted, the slice between its quotes exists.
-/
theorem segments_lossless (setting : Setting) (name : String) :
    ∃ segments : List String, setting.scan? name = some segments ∧
      segments.map String.toList = setting.segments name.toList ∧
      setting.nameSeparator.intercalate segments = name ∧
      ∀ segment : String,
        setting.isQuotedInBytes segment = setting.isQuoted segment.toList ∧
          (setting.isQuotedInBytes segment = true →
            setting.openingQuote.utf8ByteSize + setting.closingQuote.utf8ByteSize ≤
                segment.utf8ByteSize ∧
              setting.sliceInside? segment =
                some (.ofList (setting.insideQuotes segment.toList))) := by
  let segments := (setting.segments name.toList).map String.ofList
  have characters : segments.map String.toList = setting.segments name.toList := by
    simp [segments]
  refine ⟨segments, ?_, characters, ?_, fun segment => ?_⟩
  · have start : name.toList = [] ++ [] ++ name.toList := rfl
    have scanned := scanFrom?_eq start setting false
    simpa [Text.size, scan?, segments, Setting.segments] using scanned
  · apply String.toList_inj.mp
    rw [String.toList_intercalate, characters]
    exact setting.intercalate_segmentsFrom false [] name.toList
  · refine ⟨setting.isQuotedInBytes_eq segment, fun quoted => ⟨?_, ?_⟩⟩
    · have room := quoted
      simp only [isQuotedInBytes, Bool.and_eq_true, decide_eq_true_eq] at room
      exact room.1.1
    · exact sliceInside?_of_isQuoted (setting.isQuotedInBytes_eq segment ▸ quoted)

end Setting

end SqlCompiler
