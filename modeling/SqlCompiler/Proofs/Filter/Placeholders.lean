import SqlCompiler.Proofs.Comparator.Form
import SqlCompiler.Proofs.Filter.Leaves

/-!
# Texts and parameters of a filter belong together

A filter can be written without any names of its own: a list of placeholders
is handed in, and every leaf takes from its front as many as its form has
values.  When the list holds the names of the parameters of the filter, this
gives the text of the filter and uses the list up.  So the text refers to the
bound parameters one by one, in their order, and the values bound are those of
the leaves from left to right.
-/

namespace SqlCompiler

def parenthesized (conjunction : Conjunction) (negated : Bool) (conditions : List String) :
    String :=
  (if negated then "NOT " else "") ++ "(" ++
    (" " ++ conjunction.keyword ++ " ").intercalate conditions ++ ")"

theorem joinedText_of_ne_nil (conjunction : Conjunction) (negated : Bool)
    {conditions : List String} (nonempty : conditions ≠ []) :
    joinedText conjunction negated conditions =
      parenthesized conjunction negated conditions := by
  have notEmpty : conditions.isEmpty = false := by simpa using nonempty
  cases negated <;>
    simp only [joinedText, parenthesized, notEmpty, Bool.false_eq_true, if_false, if_true,
      String.append_assoc, String.empty_append]

namespace FilterItems

/--
Write the items with placeholders from the front of a list.

The results are the conditions, where a group without conditions is passed
over, and the placeholders that are left over.
-/
def writeWith (setting : Setting) :
    FilterItems → List String → Option (List String × List String)
  | .nil, names => some ([], names)
  | .leaf comparator rest, names => do
      let (condition, names) ←
        comparator.form.write (comparator.columnText setting) names
      let (conditions, names) ← rest.writeWith setting names
      some (condition :: conditions, names)
  | .group conjunction negated items rest, names => do
      let (inner, names) ← items.writeWith setting names
      let (conditions, names) ← rest.writeWith setting names
      if inner.isEmpty then some (conditions, names)
      else some (parenthesized conjunction negated inner :: conditions, names)

end FilterItems

namespace Filter

def writeWith (filter : Filter) (setting : Setting) (names : List String) :
    Option (String × List String) := do
  let (conditions, names) ← filter.items.writeWith setting names
  if conditions.isEmpty then some ("", names)
  else some (parenthesized filter.conjunction filter.negated conditions, names)

end Filter

namespace FilterItems

theorem writeWith_of_isEmpty (setting : Setting) (items : FilterItems)
    (empty : items.isEmpty = true) (names : List String) :
    items.writeWith setting names = some ([], names) := by
  induction items generalizing names with
  | nil => rfl
  | leaf comparator rest ih => simp [isEmpty] at empty
  | group conjunction negated inner rest innerIH restIH =>
      simp only [isEmpty, Bool.and_eq_true] at empty
      simp [writeWith, innerIH empty.1, restIH empty.2]

theorem texts_named_ne_nil (setting : Setting) (row : Nat) (items : FilterItems)
    (nonempty : items.isEmpty = false) (namer : Namer) :
    (items.named setting row namer).1.texts setting ≠ [] := by
  induction items generalizing namer with
  | nil => simp [isEmpty] at nonempty
  | leaf comparator rest ih =>
      unfold named
      split <;> simp [NamedItems.texts]
  | group conjunction negated inner rest innerIH restIH =>
      unfold named
      split
      next empty =>
        exact restIH (by simpa [isEmpty, empty] using nonempty) namer
      next => simp [NamedItems.texts]

/--
The names handed out to items are used up by writing them.

The induction is on the items, for every namer they start with and every list
of names behind theirs.
-/
theorem writeWith_names (setting : Setting) (row : Nat) (items : FilterItems)
    (constructed : ∀ comparator ∈ items.comparators, comparator.Constructed)
    (namer : Namer) (later : List String) :
    items.writeWith setting
        (((items.named setting row namer).1.parameters setting).map BoundParameter.name ++ later) =
      some ((items.named setting row namer).1.texts setting, later) := by
  induction items generalizing namer later with
  | nil => rfl
  | leaf comparator rest ih =>
      have hasForm := (constructed comparator (by simp [comparators])).wellFormed.hasForm
      have restIH := ih (fun other member => constructed other (by simp [comparators, member]))
      unfold named
      split <;>
        simp only [NamedItems.parameters, NamedItems.texts, List.map_append, List.append_assoc,
          writeWith, hasForm.write_names, restIH, Option.bind_eq_bind, Option.bind_some]
  | group conjunction negated inner rest innerIH restIH =>
      have innerIH := innerIH fun other member =>
        constructed other (by simp [comparators, member])
      have restIH := restIH fun other member =>
        constructed other (by simp [comparators, member])
      unfold named
      split
      next empty =>
        simp [writeWith, writeWith_of_isEmpty setting inner empty, restIH]
      next nonempty =>
        have conditions : (inner.named setting row namer).1.texts setting ≠ [] :=
          texts_named_ne_nil setting row inner (by simpa using nonempty) namer
        simp [NamedItems.parameters, NamedItems.texts, writeWith, innerIH, restIH, conditions,
          joinedText_of_ne_nil]

end FilterItems

namespace Filter

theorem map_value_parameters (filter : Filter)
    (constructed : ∀ comparator ∈ filter.comparators, comparator.Constructed)
    (setting : Setting) (row : Nat) :
    (filter.parameters setting row).map BoundParameter.value =
      filter.comparators.flatMap (fun comparator => comparator.form.values) := by
  rw [parameters_eq_flatMap_leaves, List.map_flatMap, ← filter.map_fst_leaves setting row,
    List.flatMap_map]
  apply List.flatMap_congr
  intro leaf member
  have inFilter : leaf.1 ∈ filter.comparators := by
    rw [← filter.map_fst_leaves setting row]
    exact List.mem_map_of_mem member
  rw [Comparator.map_value_parameters]
  exact (constructed leaf.1 inFilter).wellFormed.hasForm.map_snd_bindings

/--
The names of the parameters of a filter are what its text is written with: put
into the leaves from left to right they give the text, and none is left over.
The values stand in the same order as the values of the leaves.
-/
theorem writeWith_parameters (filter : Filter)
    (constructed : ∀ comparator ∈ filter.comparators, comparator.Constructed)
    (setting : Setting) (row : Nat) :
    filter.writeWith setting ((filter.parameters setting row).map BoundParameter.name) =
        some (filter.text setting row, []) ∧
      (filter.parameters setting row).map BoundParameter.value =
        filter.comparators.flatMap (fun comparator => comparator.form.values) := by
  refine ⟨?_, filter.map_value_parameters constructed setting row⟩
  have written := FilterItems.writeWith_names setting row filter.items constructed {} []
  rw [List.append_nil] at written
  simp only [writeWith, parameters_eq_namedItems, text_eq_namedItems, namedItems, written,
    Option.bind_eq_bind, Option.bind_some]
  cases conditions : (filter.items.named setting row {}).1.texts setting with
  | nil => rfl
  | cons condition conditions => simp [joinedText_of_ne_nil]

/-- A filter with a range, a text of its own, a list, an empty group and a null. -/
def mixedSample : Filter where
  items :=
    .leaf { field := { name := "Age" }, comparison := .between,
            value := .list [.int 18, .int 65], kind := .plain }
      (.group .or true
        (.leaf (.literal "[Deleted] = 0")
          (.leaf { field := { name := "Age" }, comparison := .oneOf,
                   value := .list [.int 7], kind := .functional .lower } .nil))
        (.group .or false .nil
          (.leaf { field := { name := "Name" }, comparison := .equal,
                   value := .null, kind := .plain } .nil)))

theorem writeWith_parameters_mixedSample :
    (∀ comparator ∈ mixedSample.comparators, comparator.Constructed) ∧
      mixedSample.writeWith .sqlServer
          ((mixedSample.parameters .sqlServer 2).map BoundParameter.name) =
        some (mixedSample.text .sqlServer 2, []) ∧
      (mixedSample.parameters .sqlServer 2).map BoundParameter.value =
        mixedSample.comparators.flatMap (fun comparator => comparator.form.values) := by
  have constructed : ∀ comparator ∈ mixedSample.comparators, comparator.Constructed := by
    intro comparator member
    simp only [mixedSample, comparators, FilterItems.comparators, List.cons_append,
      List.nil_append, List.mem_cons, List.not_mem_nil, or_false] at member
    obtain rfl | rfl | rfl | rfl := member
    · exact .make (rfl : Comparator.make "Age" .between (.list [.int 18, .int 65]) = _)
    · exact .literal "[Deleted] = 0"
    · exact .functional (rfl : Comparator.functional "Age" .oneOf (.list [.int 7]) .lower = _)
    · exact .make (rfl : Comparator.make "Name" .equal .null = _)
  exact ⟨constructed, writeWith_parameters mixedSample constructed .sqlServer 2⟩

example : (mixedSample.parameters .sqlServer 2).map BoundParameter.name =
    ["@Age_2_Left", "@Age_2_Right", "@Age_1_2_In_0"] := by
  decide +kernel

end Filter

end SqlCompiler
