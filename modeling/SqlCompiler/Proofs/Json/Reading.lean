import SqlCompiler.Json.Excerpt
import SqlCompiler.Proofs.Json.Tokens

/-!
# Documents are read as they were written

The compact notation is a notation that the reader accepts, and it reads back
the document that was written, unless that is nested too deeply or holds other
numbers than words.  An excerpt of an object whose members are all listed is
the whole object.
-/

namespace SqlCompiler

namespace Json

mutual

/-- The document can stand inside some arrays and objects, and its numbers are words. -/
def isReadable (depth : Nat) : Json → Bool
  | .number (.integer value) => Word.holds value
  | .number (.float _) => false
  | .array items => depth < depthLimit && areReadable (depth + 1) items
  | .object members => depth < depthLimit && membersReadable (depth + 1) members
  | _ => true

def areReadable (depth : Nat) : List Json → Bool
  | [] => true
  | item :: rest => isReadable depth item && areReadable depth rest

def membersReadable (depth : Nat) : List (String × Json) → Bool
  | [] => true
  | (_, value) :: rest => isReadable depth value && membersReadable depth rest

end

/-! ## Texts -/

def itemsText (items : List Json) : List Char :=
  (",".intercalate (itemTexts items)).toList

def membersText (members : List (String × Json)) : List Char :=
  (",".intercalate (memberTexts members)).toList

theorem toList_text_array (items : List Json) :
    (array items).text.toList = '[' :: (itemsText items ++ [']']) := by
  rw [text, String.toList_append, String.toList_append, itemsText]
  rfl

theorem toList_text_object (members : List (String × Json)) :
    (object members).text.toList = '\x7b' :: (membersText members ++ ['\x7d']) := by
  rw [text, String.toList_append, String.toList_append, membersText]
  rfl

theorem toList_quotedText (text : String) :
    (quotedText text).toList = '"' :: (text.toList.flatMap escaped ++ ['"']) := by
  rw [quotedText, String.toList_ofList, List.cons_append]

theorem itemsText_singleton (item : Json) : itemsText [item] = item.text.toList := by
  simp [itemsText, itemTexts]

theorem itemsText_cons_cons (first second : Json) (rest : List Json) :
    itemsText (first :: second :: rest) =
      first.text.toList ++ ',' :: itemsText (second :: rest) := by
  rw [itemsText, itemTexts, itemTexts, String.intercalate_cons_cons, String.toList_append,
    String.toList_append, List.append_assoc, ← itemTexts]
  rfl

theorem membersText_singleton (key : String) (value : Json) :
    membersText [(key, value)] =
      '"' :: (key.toList.flatMap escaped ++ '"' :: ':' :: value.text.toList) := by
  have colon : ":".toList = [':'] := rfl
  simp [membersText, memberTexts, toList_quotedText, colon]

theorem membersText_cons_cons (first second : String × Json) (rest : List (String × Json)) :
    membersText (first :: second :: rest) =
      membersText [first] ++ ',' :: membersText (second :: rest) := by
  obtain ⟨key, value⟩ := first
  obtain ⟨key', value'⟩ := second
  simp only [membersText, memberTexts, String.intercalate_cons_cons, String.toList_append,
    List.append_assoc, String.intercalate_singleton]
  rfl

/-- The character starts a value; in particular it is no space and closes nothing. -/
def StartsValue (c : Char) : Prop :=
  c ∈ ['n', 't', 'f', '"', '[', '\x7b', '-'] ∨ c.isDigit = true

theorem exists_toString_cons (number : Int) :
    ∃ c rest, (toString number).toList = c :: rest ∧ (c = '-' ∨ c.isDigit = true) := by
  cases number with
  | ofNat value =>
      rw [Int.ofNat_eq_natCast, toList_toString_ofNat]
      cases digits : Nat.toDigits 10 value with
      | nil => exact absurd digits Nat.toDigits_ne_nil
      | cons first others =>
          have member : first ∈ Nat.toDigits 10 value := digits ▸ List.mem_cons_self
          have digit := Nat.isDigit_of_mem_toDigits (by decide) (by decide) member
          exact ⟨first, others, rfl, .inr digit⟩
  | negSucc value => exact ⟨'-', _, toList_toString_negSucc value, .inl rfl⟩

theorem exists_text_cons {depth : Nat} {document : Json}
    (readable : document.isReadable depth = true) :
    ∃ c rest, document.text.toList = c :: rest ∧ StartsValue c := by
  cases document with
  | null => exact ⟨'n', _, rfl, .inl (by decide)⟩
  | bool value => cases value with
    | true => exact ⟨'t', _, rfl, .inl (by decide)⟩
    | false => exact ⟨'f', _, rfl, .inl (by decide)⟩
  | number number => cases number with
    | integer value =>
        obtain ⟨c, rest, written, sign | digit⟩ := exists_toString_cons value
        · exact ⟨c, rest, written, .inl (by rw [sign]; decide)⟩
        · exact ⟨c, rest, written, .inr digit⟩
    | float value => cases readable
  | string value => exact ⟨'"', _, toList_quotedText value, .inl (by decide)⟩
  | array items => exact ⟨'[', _, toList_text_array items, .inl (by decide)⟩
  | object members => exact ⟨'\x7b', _, toList_text_object members, .inl (by decide)⟩

theorem StartsValue.skipSpace_cons {c : Char} (starts : StartsValue c) (rest : List Char) :
    skipSpace (c :: rest) = c :: rest := by
  have solid : (c == ' ' || c == '\n' || c == '\t' || c == '\r') = false := by
    obtain mark | digit := starts
    · simp only [List.mem_cons, List.not_mem_nil, or_false] at mark
      obtain rfl | rfl | rfl | rfl | rfl | rfl | rfl := mark <;> rfl
    · simp only [Bool.or_eq_false_iff, beq_eq_false_iff_ne]
      refine ⟨⟨⟨?_, ?_⟩, ?_⟩, ?_⟩ <;> rintro rfl <;> cases digit
  rw [skipSpace, List.dropWhile_cons, solid]
  rfl

theorem StartsValue.ne_closing {c : Char} (starts : StartsValue c) : c ≠ ']' := by
  rintro rfl
  exact absurd starts (by unfold StartsValue; decide)

theorem skipSpace_text {depth : Nat} {document : Json}
    (readable : document.isReadable depth = true) (rest : List Char) :
    skipSpace (document.text.toList ++ rest) = document.text.toList ++ rest := by
  obtain ⟨c, others, written, starts⟩ := exists_text_cons readable
  rw [written, List.cons_append, starts.skipSpace_cons]

theorem itemsText_solid {depth : Nat} {item : Json} {others : List Json}
    (readable : areReadable depth (item :: others) = true) (rest : List Char) :
    skipSpace (itemsText (item :: others) ++ rest) = itemsText (item :: others) ++ rest ∧
      ∀ behind, itemsText (item :: others) ++ rest ≠ ']' :: behind := by
  obtain ⟨first, -⟩ := Bool.and_eq_true_iff.mp readable
  obtain ⟨c, tail, written, starts⟩ := exists_text_cons first
  obtain ⟨tail, written⟩ : ∃ tail, itemsText (item :: others) = c :: tail := by
    cases others with
    | nil => exact ⟨tail, by rw [itemsText_singleton, written]⟩
    | cons second others => exact ⟨_, by rw [itemsText_cons_cons, written, List.cons_append]⟩
  rw [written, List.cons_append]
  refine ⟨starts.skipSpace_cons _, fun behind equal => ?_⟩
  exact starts.ne_closing (List.cons.inj equal).1

theorem exists_membersText_cons (member : String × Json) (others : List (String × Json)) :
    ∃ tail, membersText (member :: others) = '"' :: tail := by
  obtain ⟨key, value⟩ := member
  cases others with
  | nil => exact ⟨_, membersText_singleton key value⟩
  | cons second others =>
      exact ⟨_, by rw [membersText_cons_cons, membersText_singleton, List.cons_append]⟩

theorem endsValue_cons {c : Char} (closing : c ∈ [',', ']', '\x7d']) (rest : List Char) :
    EndsValue (c :: rest) := by
  intro head found
  cases found
  exact closing

theorem skipSpace_closing {c : Char} (closing : c ∈ [',', ']', '\x7d']) (rest : List Char) :
    skipSpace (c :: rest) = c :: rest := by
  simp only [List.mem_cons, List.not_mem_nil, or_false] at closing
  obtain rfl | rfl | rfl := closing <;> rfl

theorem readWord_quote (rest : List Char) : readWord ['"'] (skipSpace ('"' :: rest)) = some rest :=
  rfl

theorem readWord_colon (rest : List Char) : readWord [':'] (skipSpace (':' :: rest)) = some rest :=
  rfl

/-! ## Reading -/

theorem readDocument_number {depth fuel : Nat} {number : Int} (holds : Word.holds number = true)
    {rest : List Char} (ends : EndsValue rest) :
    readDocument depth (fuel + 1) ((toString number).toList ++ rest) =
      some (.number (.integer number), rest) := by
  have read := readNumber_toString holds ends
  obtain ⟨c, others, written, starts⟩ := exists_toString_cons number
  have other : ∀ mark ∈ ['"', '[', '\x7b', 'n', 't', 'f'], c ≠ mark := by
    rintro mark member rfl
    obtain sign | digit := starts
    · subst sign
      exact absurd member (by decide)
    · simp only [List.mem_cons, List.not_mem_nil, or_false] at member
      obtain rfl | rfl | rfl | rfl | rfl | rfl := member <;> cases digit
  rw [written, List.cons_append] at read ⊢
  simp [readDocument, read, other]

theorem readDocument_array {depth fuel : Nat} (shallow : depth < depthLimit) {text : List Char}
    (solid : skipSpace text = text) (filled : ∀ rest, text ≠ ']' :: rest) {items : List Json}
    {rest : List Char} (read : readItems (depth + 1) fuel text = some (items, rest)) :
    readDocument depth (fuel + 1) ('[' :: text) = some (.array items, rest) := by
  simp [readDocument, guard, shallow, solid, read]

theorem readDocument_object {depth fuel : Nat} (shallow : depth < depthLimit) {text : List Char}
    (solid : skipSpace text = text) (filled : ∀ rest, text ≠ '\x7d' :: rest)
    {members : List (String × Json)} {rest : List Char}
    (read : readMembers (depth + 1) fuel text = some (members, rest)) :
    readDocument depth (fuel + 1) ('\x7b' :: text) = some (.object members, rest) := by
  simp [readDocument, guard, shallow, solid, read]

theorem readItems_last {depth fuel : Nat} {text : List Char} (solid : skipSpace text = text)
    {item : Json} {rest : List Char}
    (read : readDocument depth fuel text = some (item, ']' :: rest)) :
    readItems depth (fuel + 1) text = some ([item], rest) := by
  have closed := skipSpace_closing (c := ']') (by decide) rest
  simp only [readItems, solid, read, closed, Option.bind_eq_bind, Option.bind_some]

theorem readItems_cons {depth fuel : Nat} {text : List Char} (solid : skipSpace text = text)
    {item : Json} {behind : List Char}
    (read : readDocument depth fuel text = some (item, ',' :: behind))
    {items : List Json} {rest : List Char}
    (others : readItems depth fuel behind = some (items, rest)) :
    readItems depth (fuel + 1) text = some (item :: items, rest) := by
  have separated := skipSpace_closing (c := ',') (by decide) behind
  simp only [readItems, solid, read, separated, others, Option.bind_eq_bind, Option.bind_some]

theorem readMembers_last {depth fuel : Nat} {key : String} {text : List Char}
    (solid : skipSpace text = text) {value : Json} {rest : List Char}
    (read : readDocument depth fuel text = some (value, '\x7d' :: rest)) :
    readMembers depth (fuel + 1) ('"' :: (key.toList.flatMap escaped ++ '"' :: ':' :: text)) =
      some ([(key, value)], rest) := by
  have closed := skipSpace_closing (c := '\x7d') (by decide) rest
  simp only [readMembers, readWord_quote, readString_written, readWord_colon, solid, read, closed,
    Option.bind_eq_bind, Option.bind_some]

theorem readMembers_cons {depth fuel : Nat} {key : String} {text : List Char}
    (solid : skipSpace text = text) {value : Json} {behind : List Char}
    (read : readDocument depth fuel text = some (value, ',' :: behind))
    {members : List (String × Json)} {rest : List Char}
    (others : readMembers depth fuel behind = some (members, rest)) :
    readMembers depth (fuel + 1) ('"' :: (key.toList.flatMap escaped ++ '"' :: ':' :: text)) =
      some ((key, value) :: members, rest) := by
  have separated := skipSpace_closing (c := ',') (by decide) behind
  simp only [readMembers, readWord_quote, readString_written, readWord_colon, solid, read,
    separated, others, Option.bind_eq_bind, Option.bind_some]

mutual

/-- A document is read back, with two calls for every character of its text. -/
theorem readDocument_text {depth fuel : Nat} {document : Json}
    (readable : document.isReadable depth = true)
    (enough : 2 * document.text.toList.length ≤ fuel) {rest : List Char} (ends : EndsValue rest) :
    readDocument depth fuel (document.text.toList ++ rest) = some (document, rest) := by
  obtain ⟨fuel, rfl⟩ : ∃ less, fuel = less + 1 := by
    obtain ⟨c, others, written, -⟩ := exists_text_cons readable
    rw [written, List.length_cons] at enough
    exact ⟨fuel - 1, by omega⟩
  cases document with
  | null => rfl
  | bool value => cases value <;> rfl
  | number number => cases number with
    | integer value => exact readDocument_number readable ends
    | float value => cases readable
  | string value =>
      rw [text, toList_quotedText, List.cons_append, List.append_assoc, List.singleton_append,
        readDocument, readString_written]
      rfl
  | array items =>
      obtain ⟨shallow, readable⟩ := Bool.and_eq_true_iff.mp readable
      have shallow := of_decide_eq_true shallow
      rw [toList_text_array, List.length_cons, List.length_append, List.length_singleton] at enough
      rw [toList_text_array, List.cons_append, List.append_assoc, List.singleton_append]
      cases items with
      | nil =>
          have closed := skipSpace_closing (c := ']') (by decide) rest
          simp [itemsText, itemTexts, readDocument, guard, shallow, closed]
      | cons item others =>
          obtain ⟨solid, filled⟩ := itemsText_solid readable (']' :: rest)
          exact readDocument_array shallow solid filled
            (readItems_text readable (List.cons_ne_nil item others) (by omega) rest)
  | object members =>
      obtain ⟨shallow, readable⟩ := Bool.and_eq_true_iff.mp readable
      have shallow := of_decide_eq_true shallow
      rw [toList_text_object, List.length_cons, List.length_append, List.length_singleton] at enough
      rw [toList_text_object, List.cons_append, List.append_assoc, List.singleton_append]
      cases members with
      | nil =>
          have closed := skipSpace_closing (c := '\x7d') (by decide) rest
          simp [membersText, memberTexts, readDocument, guard, shallow, closed]
      | cons member others =>
          obtain ⟨tail, written⟩ := exists_membersText_cons member others
          have read : readMembers (depth + 1) fuel
              (membersText (member :: others) ++ '\x7d' :: rest) = some (member :: others, rest) :=
            readMembers_text readable (List.cons_ne_nil member others) (by omega) rest
          rw [written, List.cons_append] at read ⊢
          exact readDocument_object shallow rfl (by simp) read

theorem readItems_text {depth fuel : Nat} {items : List Json}
    (readable : areReadable depth items = true) (nonempty : items ≠ [])
    (enough : 2 * ((itemsText items).length + 1) ≤ fuel) (rest : List Char) :
    readItems depth fuel (itemsText items ++ ']' :: rest) = some (items, rest) := by
  obtain ⟨fuel, rfl⟩ : ∃ less, fuel = less + 1 := ⟨fuel - 1, by omega⟩
  cases items with
  | nil => exact absurd rfl nonempty
  | cons item others =>
      obtain ⟨first, readable⟩ := Bool.and_eq_true_iff.mp readable
      cases others with
      | nil =>
          rw [itemsText_singleton] at enough ⊢
          exact readItems_last (skipSpace_text first _)
            (readDocument_text first (by omega) (endsValue_cons (by decide) rest))
      | cons second others =>
          rw [itemsText_cons_cons, List.length_append, List.length_cons] at enough
          rw [itemsText_cons_cons, List.append_assoc, List.cons_append]
          exact readItems_cons (skipSpace_text first _)
            (readDocument_text first (by omega) (endsValue_cons (by decide) _))
            (readItems_text readable (List.cons_ne_nil second others) (by omega) rest)

theorem readMembers_text {depth fuel : Nat} {members : List (String × Json)}
    (readable : membersReadable depth members = true) (nonempty : members ≠ [])
    (enough : 2 * ((membersText members).length + 1) ≤ fuel) (rest : List Char) :
    readMembers depth fuel (membersText members ++ '\x7d' :: rest) = some (members, rest) := by
  obtain ⟨fuel, rfl⟩ : ∃ less, fuel = less + 1 := ⟨fuel - 1, by omega⟩
  cases members with
  | nil => exact absurd rfl nonempty
  | cons member others =>
      obtain ⟨key, value⟩ := member
      obtain ⟨first, readable⟩ := Bool.and_eq_true_iff.mp readable
      have longer : value.text.toList.length ≤ (membersText [(key, value)]).length := by
        rw [membersText_singleton]
        simp only [List.length_cons, List.length_append]
        omega
      cases others with
      | nil =>
          have read : readDocument depth fuel (value.text.toList ++ '\x7d' :: rest) =
              some (value, '\x7d' :: rest) :=
            readDocument_text first (by omega) (endsValue_cons (by decide) rest)
          rw [membersText_singleton]
          simpa only [List.cons_append, List.append_assoc] using
            readMembers_last (skipSpace_text first _) read
      | cons second others =>
          rw [membersText_cons_cons, List.length_append, List.length_cons] at enough
          have read : readDocument depth fuel
              (value.text.toList ++ ',' :: (membersText (second :: others) ++ '\x7d' :: rest)) =
                some (value, ',' :: (membersText (second :: others) ++ '\x7d' :: rest)) :=
            readDocument_text first (by omega) (endsValue_cons (by decide) _)
          have behind : readMembers depth fuel (membersText (second :: others) ++ '\x7d' :: rest) =
              some (second :: others, rest) :=
            readMembers_text readable (List.cons_ne_nil second others) (by omega) rest
          rw [membersText_cons_cons, membersText_singleton]
          simpa only [List.cons_append, List.append_assoc] using
            readMembers_cons (skipSpace_text first _) read behind

end

/-- A document that is written is read back as it was. -/
theorem read?_text {document : Json} (readable : document.isReadable 0 = true) :
    read? document.text = some document := by
  have ends : EndsValue [] := fun c found => by cases found
  have whole := readDocument_text readable (Nat.le_add_right _ 2) ends
  have solid := skipSpace_text readable []
  rw [List.append_nil] at whole solid
  simp only [read?, solid, enoughCalls, whole, Option.bind_eq_bind, Option.bind_some]
  rfl

/-- To read a written document is to read its text and then what that stands for. -/
theorem read?_text_bind {α : Type} {document : Json} (readable : document.isReadable 0 = true)
    (decode : Json → Option α) : (read? document.text).bind decode = decode document := by
  rw [read?_text readable, Option.bind_some]

/-! ## Excerpts -/

theorem readListed_text {keys : List String} {key : String} (listed : key ∈ keys) {value : Json}
    (readable : value.isReadable 1 = true) {rest : List Char} (ends : EndsValue rest) :
    readListed keys key (value.text.toList ++ rest) = some ([(key, value)], rest) := by
  have enough : 2 * value.text.toList.length ≤ enoughCalls (value.text.toList ++ rest) := by
    rw [enoughCalls, List.length_append]
    omega
  have member : keys.contains key = true := List.contains_iff_mem.mpr listed
  simp only [readListed, member, if_true, readDocument_text readable enough ends,
    Option.bind_eq_bind, Option.bind_some]

theorem readMembersListed_last {keys : List String} {fuel : Nat} {key : String} {text : List Char}
    (solid : skipSpace text = text) {found : List (String × Json)} {rest : List Char}
    (read : readListed keys key text = some (found, '\x7d' :: rest)) :
    readMembersListed keys (fuel + 1)
        ('"' :: (key.toList.flatMap escaped ++ '"' :: ':' :: text)) = some (found, rest) := by
  have closed := skipSpace_closing (c := '\x7d') (by decide) rest
  simp only [readMembersListed, readWord_quote, readString_written, readWord_colon, solid, read,
    closed, Option.bind_eq_bind, Option.bind_some]

theorem readMembersListed_cons {keys : List String} {fuel : Nat} {key : String} {text : List Char}
    (solid : skipSpace text = text) {found : List (String × Json)} {behind : List Char}
    (read : readListed keys key text = some (found, ',' :: behind))
    {others : List (String × Json)} {rest : List Char}
    (readOthers : readMembersListed keys fuel behind = some (others, rest)) :
    readMembersListed keys (fuel + 1)
        ('"' :: (key.toList.flatMap escaped ++ '"' :: ':' :: text)) =
      some (found ++ others, rest) := by
  have separated := skipSpace_closing (c := ',') (by decide) behind
  simp only [readMembersListed, readWord_quote, readString_written, readWord_colon, solid, read,
    separated, readOthers, Option.bind_eq_bind, Option.bind_some]

theorem readMembersListed_text {keys : List String} {fuel : Nat} {members : List (String × Json)}
    (readable : membersReadable 1 members = true) (listed : ∀ member ∈ members, member.1 ∈ keys)
    (nonempty : members ≠ []) (enough : members.length ≤ fuel) (rest : List Char) :
    readMembersListed keys fuel (membersText members ++ '\x7d' :: rest) = some (members, rest) := by
  induction members generalizing fuel with
  | nil => exact absurd rfl nonempty
  | cons member others ih =>
      obtain ⟨fuel, rfl⟩ : ∃ less, fuel = less + 1 := ⟨fuel - 1, by
        rw [List.length_cons] at enough
        omega⟩
      obtain ⟨key, value⟩ := member
      obtain ⟨first, readable⟩ := Bool.and_eq_true_iff.mp readable
      have known : key ∈ keys := listed (key, value) List.mem_cons_self
      cases others with
      | nil =>
          have read := readListed_text known first (endsValue_cons (c := '\x7d') (by decide) rest)
          rw [membersText_singleton]
          simpa only [List.cons_append, List.append_assoc] using
            readMembersListed_last (skipSpace_text first _) read
      | cons second others =>
          have read := readListed_text known first (endsValue_cons (c := ',') (by decide)
            (membersText (second :: others) ++ '\x7d' :: rest))
          have listed : ∀ member ∈ second :: others, member.1 ∈ keys :=
            fun member found => listed member (List.mem_cons_of_mem _ found)
          have behind := ih readable listed (List.cons_ne_nil second others)
            (Nat.le_of_succ_le_succ enough)
          rw [membersText_cons_cons, membersText_singleton]
          simpa only [List.cons_append, List.append_assoc, List.nil_append] using
            readMembersListed_cons (skipSpace_text first _) read behind

theorem length_le_membersText (members : List (String × Json)) :
    members.length ≤ (membersText members).length := by
  induction members with
  | nil => exact Nat.zero_le _
  | cons member others ih =>
      obtain ⟨key, value⟩ := member
      cases others with
      | nil => simp [membersText_singleton]
      | cons second others =>
          have first : 0 < (membersText [(key, value)]).length := by simp [membersText_singleton]
          rw [membersText_cons_cons, List.length_append]
          simp only [List.length_cons] at ih ⊢
          omega

theorem readExcerpt?_of_filled {keys : List String} {text : String} {behind : List Char}
    (starts : skipSpace text.toList = '\x7b' :: behind) (solid : skipSpace behind = behind)
    (filled : ∀ rest, behind ≠ '\x7d' :: rest) {members : List (String × Json)}
    (read : readMembersListed keys behind.length behind = some (members, [])) :
    readExcerpt? keys text = some (.object members) := by
  have ended : skipSpace [] = [] := rfl
  simp [readExcerpt?, starts, solid, read, ended, guard]

/-- An object of which all members are listed is read back as it was. -/
theorem readExcerpt?_text {keys : List String} {members : List (String × Json)}
    (readable : membersReadable 1 members = true) (listed : ∀ member ∈ members, member.1 ∈ keys) :
    readExcerpt? keys (object members).text = some (object members) := by
  have solid : skipSpace (object members).text.toList =
      '\x7b' :: (membersText members ++ ['\x7d']) := by
    rw [toList_text_object]
    rfl
  cases members with
  | nil =>
      simp only [readExcerpt?, solid]
      rfl
  | cons member others =>
      obtain ⟨tail, written⟩ := exists_membersText_cons member others
      have enough :
          (member :: others).length ≤ (membersText (member :: others) ++ ['\x7d']).length := by
        have fewer := length_le_membersText (member :: others)
        rw [List.length_append]
        omega
      have read := readMembersListed_text readable listed (List.cons_ne_nil member others) enough []
      rw [written, List.cons_append] at read solid
      exact readExcerpt?_of_filled solid rfl (by simp) read

end Json

end SqlCompiler
