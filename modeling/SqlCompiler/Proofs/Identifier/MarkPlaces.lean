import Mathlib.Data.List.Basic
import SqlCompiler.Proofs.Identifier.Requoting

/-!
# What unquoting forgets

An unquoted name joins the segments and leaves the quotes out, with a single
closing quote for each pair of them.  What it forgets is where the marks stand
in the quoted name, and nothing else: quoted names with the same unquoted form
and with the marks at the same places are equal.

This is shown up to a change of characters that leaves the marks alone, such as
writing letters in lower case.  Names are cut and bodies are read at the marks,
so the change can be made before or after.
-/

namespace SqlCompiler

namespace Text

theorem map_intercalate (change : Char → Char) (separator : List Char)
    (parts : List (List Char)) :
    (separator.intercalate parts).map change =
      (separator.map change).intercalate (parts.map (List.map change)) := by
  induction parts with
  | nil => rfl
  | cons first rest ih =>
      cases rest with
      | nil => simp
      | cons second rest =>
          rw [List.intercalate_cons_cons, List.map_append, List.map_append, ih]
          simp

/-- Parts of known lengths are found again in the joined text. -/
theorem intercalate_inj {separator : List Char} {first second : List (List Char)}
    (lengths : first.map List.length = second.map List.length)
    (joined : separator.intercalate first = separator.intercalate second) : first = second := by
  induction first generalizing second with
  | nil =>
      have none : second = [] := by simpa [eq_comm] using lengths
      exact none.symm
  | cons part parts ih =>
      cases second with
      | nil => simp at lengths
      | cons other others =>
          simp only [List.map_cons, List.cons.injEq] at lengths
          obtain ⟨front, behind⟩ := lengths
          cases parts with
          | nil =>
              have none : others = [] := by simpa [eq_comm] using behind
              subst none
              simpa using joined
          | cons next parts =>
              cases others with
              | nil => simp at behind
              | cons next' others =>
                  rw [List.intercalate_cons_cons, List.intercalate_cons_cons,
                    List.append_assoc, List.append_assoc] at joined
                  obtain ⟨same, later⟩ := List.append_inj joined front
                  rw [same, ih behind (List.append_cancel_left later)]

/-- A text is read from left to right, where a pair of marks counts as one. -/
@[elab_as_elim]
theorem pairInduction {motive : List Char → Prop} (mark : Char) (nil : motive [])
    (pair : ∀ rest, motive rest → motive (mark :: mark :: rest))
    (single : ∀ rest, rest.head? ≠ some mark → motive rest → motive (mark :: rest))
    (plain : ∀ c rest, c ≠ mark → motive rest → motive (c :: rest)) (text : List Char) :
    motive text :=
  match text with
  | [] => nil
  | c :: rest => by
      by_cases same : c = mark
      · subst same
        match rest with
        | [] => exact single [] (by simp) nil
        | d :: rest =>
            by_cases doubled : d = c
            · subst doubled
              exact pair rest (pairInduction d nil pair single plain rest)
            · exact single (d :: rest) (by simpa using doubled)
                (pairInduction c nil pair single plain (d :: rest))
      · exact plain c rest same (pairInduction mark nil pair single plain rest)

end Text

namespace Setting

namespace SingleMarks

variable {setting : Setting} (marks : setting.SingleMarks)

@[simp]
theorem halve_nil : marks.halve [] = [] :=
  Text.replaceAll_nil _ _

theorem halve_pair (rest : List Char) :
    marks.halve (marks.closing :: marks.closing :: rest) = marks.closing :: marks.halve rest :=
  Text.replaceAll_pair_of_pair

theorem halve_single {rest : List Char} (single : rest.head? ≠ some marks.closing) :
    marks.halve (marks.closing :: rest) = marks.closing :: marks.halve rest :=
  Text.replaceAll_pair_of_single single

theorem halve_plain {c : Char} (different : c ≠ marks.closing) (rest : List Char) :
    marks.halve (c :: rest) = c :: marks.halve rest :=
  Text.replaceAll_pair_of_ne different

theorem delimit_injective : Function.Injective marks.delimit := by
  intro first second equal
  simpa [delimit] using equal

/-- The segments of a quoted name are its bodies between quotes. -/
theorem split_quote (name : String) :
    marks.split .outside [] (setting.quote name).toList =
      (setting.bodies name.toList).map marks.delimit := by
  rw [marks.toList_quote]
  exact marks.split_intercalate (marks.pieces_bodies name.toList)

/-- A change of characters by which no other character becomes a mark, and no mark another one. -/
structure KeepsMarks (change : Char → Char) : Prop where
  opening_iff (c : Char) : change c = marks.opening ↔ c = marks.opening
  closing_iff (c : Char) : change c = marks.closing ↔ c = marks.closing
  separator_iff (c : Char) : change c = marks.separator ↔ c = marks.separator

/-- The marks of a text, with everything else blanked out. -/
def blank (c : Char) : Char :=
  if c = marks.opening ∨ c = marks.closing ∨ c = marks.separator then c else ' '

theorem keepsMarks_blank : marks.KeepsMarks marks.blank := by
  have notSpace {mark : Char} (visible : Text.isWhiteSpace mark = false) : ' ' ≠ mark := by
    rintro rfl
    exact absurd visible (by decide)
  constructor <;> intro c <;> unfold blank <;> split
  · rfl
  · grind [notSpace marks.opening_not_space]
  · rfl
  · grind [notSpace marks.closing_not_space]
  · rfl
  · grind [notSpace marks.separator_not_space]

/-- A body is known from its marks and from its form with single closing quotes. -/
theorem map_eq_of_halve {change : Char → Char} {first second : List Char}
    (marksEq : first.map marks.blank = second.map marks.blank)
    (halves : (marks.halve first).map change = (marks.halve second).map change) :
    first.map change = second.map change := by
  have blank := marks.keepsMarks_blank
  have kept : marks.blank marks.closing = marks.closing := (blank.closing_iff _).mpr rfl
  induction first using Text.pairInduction marks.closing generalizing second with
  | nil =>
      have none : second = [] := List.map_eq_nil_iff.mp marksEq.symm
      rw [none]
  | pair rest ih =>
      obtain ⟨c, behind, rfl, front, tailEq⟩ := List.map_eq_cons_iff.mp marksEq.symm
      obtain ⟨d, others, rfl, next, restEq⟩ := List.map_eq_cons_iff.mp tailEq
      obtain rfl := (blank.closing_iff c).mp (front.trans kept)
      obtain rfl := (blank.closing_iff d).mp (next.trans kept)
      rw [halve_pair, halve_pair] at halves
      have later := ih restEq.symm (List.tail_eq_of_cons_eq halves)
      rw [List.map_cons, List.map_cons, List.map_cons, List.map_cons, later]
  | single rest single ih =>
      obtain ⟨c, others, rfl, front, restEq⟩ := List.map_eq_cons_iff.mp marksEq.symm
      obtain rfl := (blank.closing_iff c).mp (front.trans kept)
      have singleToo : others.head? ≠ some marks.closing := by
        intro doubled
        have heads := congrArg List.head? restEq
        rw [List.head?_map, doubled, List.head?_map] at heads
        cases rest with
        | nil => simp at heads
        | cons d rest =>
            have closes : marks.blank d = marks.closing := by simpa [kept] using heads.symm
            exact single (congrArg some ((blank.closing_iff d).mp closes))
      rw [marks.halve_single single, marks.halve_single singleToo] at halves
      have later := ih restEq.symm (List.tail_eq_of_cons_eq halves)
      rw [List.map_cons, List.map_cons, later]
  | plain c rest different ih =>
      obtain ⟨d, others, rfl, front, restEq⟩ := List.map_eq_cons_iff.mp marksEq.symm
      have differentToo : d ≠ marks.closing := by
        rintro rfl
        exact different ((blank.closing_iff c).mp (front.symm.trans kept))
      rw [marks.halve_plain different, marks.halve_plain differentToo] at halves
      have head := List.head_eq_of_cons_eq halves
      have later := ih restEq.symm (List.tail_eq_of_cons_eq halves)
      rw [List.map_cons, List.map_cons, head, later]

theorem maps_eq_of_halves {change : Char → Char} {first second : List (List Char)}
    (marksEq : first.map (List.map marks.blank) = second.map (List.map marks.blank))
    (halves : first.map (fun body => (marks.halve body).map change) =
      second.map (fun body => (marks.halve body).map change)) :
    first.map (List.map change) = second.map (List.map change) := by
  induction first generalizing second with
  | nil =>
      have none : second = [] := List.map_eq_nil_iff.mp marksEq.symm
      rw [none]
  | cons body bodies ih =>
      obtain ⟨other, others, rfl, front, restEq⟩ := List.map_eq_cons_iff.mp marksEq.symm
      have same := marks.map_eq_of_halve front.symm (List.head_eq_of_cons_eq halves)
      have later := ih restEq.symm (List.tail_eq_of_cons_eq halves)
      rw [List.map_cons, List.map_cons, same, later]

section Changes

variable {marks} {change : Char → Char} (keeps : marks.KeepsMarks change)

include keeps

namespace KeepsMarks

theorem map_blank (c : Char) : marks.blank (change c) = marks.blank c := by
  have opening := keeps.opening_iff c
  have closing := keeps.closing_iff c
  have separator := keeps.separator_iff c
  unfold blank
  grind

theorem next_map (state : ScanState) (c : Char) :
    marks.next state (change c) = marks.next state c := by
  cases state <;> simp [next, keeps.opening_iff, keeps.closing_iff]

/-- A name with its characters changed is cut at the same places. -/
theorem split_map (state : ScanState) (segment text : List Char) :
    marks.split state (segment.map change) (text.map change) =
      (marks.split state segment text).map (List.map change) := by
  induction text generalizing state segment with
  | nil => rfl
  | cons c rest ih =>
      simp only [List.map_cons, split, keeps.separator_iff, keeps.next_map]
      split
      · rw [List.map_cons, ← ih, List.map_nil]
      · rw [← ih, List.map_append, List.map_singleton]

theorem delimit_map (body : List Char) :
    (marks.delimit body).map change = marks.delimit (body.map change) := by
  simp [delimit, (keeps.opening_iff _).mpr, (keeps.closing_iff _).mpr]

theorem halve_map (body : List Char) :
    (marks.halve body).map change = marks.halve (body.map change) := by
  have closing : change marks.closing = marks.closing := (keeps.closing_iff _).mpr rfl
  induction body using Text.pairInduction marks.closing with
  | nil => simp
  | pair rest ih => simp [halve_pair, closing, ih]
  | single rest single ih =>
      have singleAfter : (rest.map change).head? ≠ some marks.closing := by
        cases rest with
        | nil => simp
        | cons c rest => simpa [keeps.closing_iff] using single
      rw [marks.halve_single single, List.map_cons, ih, List.map_cons, closing,
        marks.halve_single singleAfter]
  | plain c rest different ih =>
      rw [marks.halve_plain different, List.map_cons, ih, List.map_cons,
        marks.halve_plain (by rwa [ne_eq, keeps.closing_iff])]

theorem map_quote (name : String) :
    (setting.quote name).toList.map change =
      [marks.separator].intercalate
        (((setting.bodies name.toList).map (List.map change)).map marks.delimit) := by
  rw [marks.toList_quote, Text.map_intercalate]
  simp [(keeps.separator_iff _).mpr, keeps.delimit_map, Function.comp_def]

theorem map_unquote (name : String) :
    (setting.unquote name).toList.map change =
      [marks.separator].intercalate
        (((setting.bodies name.toList).map (List.map change)).map marks.halve) := by
  rw [marks.toList_unquote, Text.map_intercalate]
  simp [(keeps.separator_iff _).mpr, keeps.halve_map, Function.comp_def]

/-- Quoted names agree after a change exactly when the bodies do. -/
theorem map_quote_eq_iff (first second : String) :
    (setting.quote first).toList.map change = (setting.quote second).toList.map change ↔
      (setting.bodies first.toList).map (List.map change) =
        (setting.bodies second.toList).map (List.map change) := by
  constructor
  · intro equal
    have cut (name : String) :
        marks.split .outside [] ((setting.quote name).toList.map change) =
          ((setting.bodies name.toList).map (List.map change)).map marks.delimit := by
      have mapped := keeps.split_map .outside [] (setting.quote name).toList
      rw [List.map_nil, marks.split_quote] at mapped
      rw [mapped]
      simp [keeps.delimit_map, Function.comp_def]
    have delimited := congrArg (marks.split .outside []) equal
    rw [cut, cut] at delimited
    exact List.map_injective_iff.mpr marks.delimit_injective delimited
  · intro equal
    rw [keeps.map_quote, keeps.map_quote, equal]

theorem length_halve_map (body : List Char) :
    (marks.halve (body.map change)).length = (marks.halve body).length := by
  rw [← keeps.halve_map, List.length_map]

/--
Quoted names agree after a change exactly when the unquoted ones do and the
marks of the quoted ones stand at the same places.
-/
theorem map_quote_eq_iff_map_unquote_eq (first second : String) :
    (setting.quote first).toList.map change = (setting.quote second).toList.map change ↔
      (setting.unquote first).toList.map change = (setting.unquote second).toList.map change ∧
        (setting.quote first).toList.map marks.blank =
          (setting.quote second).toList.map marks.blank := by
  constructor
  · intro equal
    have bodies := (keeps.map_quote_eq_iff first second).mp equal
    refine ⟨by rw [keeps.map_unquote, keeps.map_unquote, bodies], ?_⟩
    simpa [keeps.map_blank, Function.comp_def] using congrArg (List.map marks.blank) equal
  · rintro ⟨unquoted, marksEq⟩
    have blanked := (marks.keepsMarks_blank.map_quote_eq_iff first second).mp marksEq
    have lengths : (setting.bodies first.toList).map (fun body => (marks.halve body).length) =
        (setting.bodies second.toList).map (fun body => (marks.halve body).length) := by
      simpa [marks.keepsMarks_blank.length_halve_map, Function.comp_def] using
        congrArg (List.map (fun body => (marks.halve body).length)) blanked
    rw [keeps.map_unquote, keeps.map_unquote] at unquoted
    have halves := Text.intercalate_inj
      (by simpa [keeps.length_halve_map, Function.comp_def] using lengths) unquoted
    rw [keeps.map_quote_eq_iff]
    exact marks.maps_eq_of_halves blanked
      (by simpa [keeps.halve_map, Function.comp_def] using halves)

end KeepsMarks

end Changes

end SingleMarks

end Setting

end SqlCompiler
