import SqlCompiler.Proofs.Compiler.ComparedParameters
import SqlCompiler.Proofs.Compiler.UnheededFilters
import SqlCompiler.Proofs.RequestFile.Entries

/-!
# The listed parameters of an entry

A compiled entry lists parameters beside its text.  They are found apart from
the text, from the bag of the entry and a table of the operations that heed a
filter, and still they are those that the condition of the text compares, in
the same order.  An update by qualifiers is the one that compares parameters
and lists none, since no bag gives their values.
-/

namespace SqlCompiler

/-! ## Filters from bags -/

theorem Bag.members_ne_nil {bag : Json} {members : List (String × Json)}
    (read : Bag.members bag = .ok members) : members ≠ [] := by
  unfold Bag.members at read
  split at read
  next => cases read
  next first rest =>
    cases read
    exact List.cons_ne_nil first rest
  next => cases read

namespace Comparator

theorem constructed_of_ofMember {member : String × Json} {comparator : Comparator}
    (read : ofMember member = .ok comparator) : comparator.Constructed := by
  unfold ofMember at read
  split at read
  next =>
    split at read
    next => cases read
    next =>
      obtain ⟨comparison, -, made⟩ := bind_eq_ok_iff.mp read
      exact .make made
    next => cases read
  next => exact .make read

theorem constructed_of_ofMembers {members : List (String × Json)}
    {comparators : List Comparator}
    (read : List.Forall₂ (fun member comparator => ofMember member = .ok comparator) members
      comparators) : ∀ comparator ∈ comparators, comparator.Constructed := by
  induction read with
  | nil => simp
  | cons first _ ih => exact List.forall_mem_cons.mpr ⟨constructed_of_ofMember first, ih⟩

end Comparator

namespace Filter

/-- A filter from a bag has at least one comparator, and all its comparators keep the invariant. -/
theorem comparators_of_ofBag {bag : Json} {filter : Filter} (read : ofBag bag = .ok filter) :
    filter.comparators ≠ [] ∧ ∀ comparator ∈ filter.comparators, comparator.Constructed := by
  obtain ⟨comparators, readComparators, same⟩ := bind_eq_ok_iff.mp read
  cases same
  obtain ⟨members, readMembers, readAll⟩ := bind_eq_ok_iff.mp readComparators
  have each := mapM_eq_ok_iff.mp readAll
  have listed : (all comparators).comparators = comparators :=
    FilterItems.comparators_ofComparators comparators
  rw [listed]
  constructor
  · rintro rfl
    exact Bag.members_ne_nil readMembers (List.forall₂_nil_right_iff.mp each)
  · exact Comparator.constructed_of_ofMembers each

end Filter

/-! ## Entries -/

namespace RequestEntry

variable {entry : RequestEntry} {compiler : Compiler} {configuration : Configuration}
  {request : Request} {operation : Operation} {compiled : CompiledEntry}

/-- The entry without its filter. -/
def unfiltered (entry : RequestEntry) : RequestEntry :=
  { entry with filter := none }

/-- The filter of an entry as its operation takes it for a condition. -/
def conditionOf (entry : RequestEntry) (parsed : Filter) : Filter :=
  if entry.operation = .update .oneRow then parsed.forUpdate else parsed

/-- The entry updates by its qualifiers, for a batch or because it has no filter. -/
def MatchesQualifiers (entry : RequestEntry) : Prop :=
  entry.operation = .update .batch ∨ entry.operation = .update .oneRow ∧ entry.filter = none

theorem prepare_eq_ok_iff :
    entry.prepare = .ok (request, operation) ↔
      entry.request = .ok request ∧ entry.operationOf = .ok operation := by
  simp only [prepare, bind_eq_ok_iff]
  constructor
  · rintro ⟨request, read, operation, made, same⟩
    cases same
    exact ⟨read, made⟩
  · rintro ⟨read, made⟩
    exact ⟨request, read, operation, made, rfl⟩

theorem kind_of_operationOf (made : entry.operationOf = .ok operation) :
    operation.kind = entry.operation := by
  unfold operationOf at made
  split at made
  next found =>
    cases made
    exact Operation.kind_of_make? found
  next => cases made

theorem compile_eq_ok_iff :
    entry.compile compiler configuration = .ok compiled ↔
      ∃ request operation statements, entry.prepare = .ok (request, operation) ∧
        compiler.compile configuration operation request = .ok statements ∧
        compiled =
          { label := entry.label
            text := (compiler.written statements).finished
            parameters := entry.listedParameters compiler request } := by
  simp only [compile, Compiler.text, bind_eq_ok_iff, mapError_eq_ok_iff]
  constructor
  · rintro ⟨⟨request, operation⟩, prepared, _, ⟨statements, accepted, written⟩, made⟩
    cases written
    cases made
    exact ⟨request, operation, statements, prepared, accepted, rfl⟩
  · rintro ⟨request, operation, statements, prepared, accepted, rfl⟩
    exact ⟨(request, operation), prepared, _, ⟨statements, accepted, rfl⟩, rfl⟩

/-- The filter of the request is what the bag of the entry is parsed to. -/
theorem filter_of_request (read : entry.request = .ok request) :
    entry.filter = none ∧ request.filter = none ∨
      ∃ bag parsed, entry.filter = some bag ∧ Filter.ofBag bag = .ok parsed ∧
        request.filter = some parsed := by
  simp only [RequestEntry.request, bind_eq_ok_iff] at read
  obtain ⟨filter, readFilter, order, -, made⟩ := read
  cases made
  cases given : entry.filter with
  | none =>
      rw [given] at readFilter
      cases readFilter
      exact .inl ⟨rfl, rfl⟩
  | some bag =>
      simp only [given, readBag, Failure.inside, mapError_eq_ok_iff, map_eq_ok_iff] at readFilter
      obtain ⟨parsed, parse, rfl⟩ := readFilter
      exact .inr ⟨bag, parsed, rfl, parse, rfl⟩

theorem filter_eq_none_iff (read : entry.request = .ok request) :
    request.filter = none ↔ entry.filter = none := by
  rcases filter_of_request read with ⟨noBag, noFilter⟩ | ⟨bag, parsed, given, -, filter⟩
  · exact iff_of_true noFilter noBag
  · rw [given, filter]
    simp

theorem request_unfiltered (read : entry.request = .ok request) :
    entry.unfiltered.request = .ok request.unfiltered := by
  simp only [RequestEntry.request, bind_eq_ok_iff] at read
  obtain ⟨filter, -, order, readOrder, made⟩ := read
  cases made
  refine bind_eq_ok_iff.mpr ⟨none, rfl, ?_⟩
  exact bind_eq_ok_iff.mpr ⟨order, readOrder, rfl⟩

/-! ## The listed parameters -/

/-- A filter from a bag is never without effect. -/
theorem effectiveFilter_of_request (read : entry.request = .ok request) :
    request.effectiveFilter = request.filter := by
  rcases filter_of_request read with ⟨-, noFilter⟩ | ⟨bag, parsed, -, parse, filter⟩
  · rw [Request.effectiveFilter, noFilter]
    rfl
  · rw [filter]
    exact Request.effectiveFilter_eq_some_iff.mpr
      ⟨filter, (Filter.comparators_of_ofBag parse).1⟩

/-- The table of operations that heed a filter agrees with what the operations do. -/
theorem conditionFilter_kind (effective : request.effectiveFilter = request.filter)
    (operation : Operation) :
    conditionFilter operation.kind request.filter = operation.condition request := by
  have heeding (scope : Scope) :
      (if (scope == .filtered) = true then request.filter else none) = scope.filter request := by
    cases scope with
    | filtered => exact effective.symm
    | allRows => rfl
  cases operation with
  | count scope | aggregate function field scope | delete scope => exact heeding scope
  | anyRow | query top | batchQuery page rows => exact effective.symm
  | update extent =>
      cases extent with
      | batch => rfl
      | oneRow =>
          rw [Operation.condition, Compiler.heededFilter, effective]
          cases given : request.filter <;> rfl
  | truncate | insert extent | queryAll | merge extent => rfl

/-- The filter is a condition only of an operation that heeds it. -/
theorem conditionFilter_eq (entry : RequestEntry) (filter : Option Filter) :
    conditionFilter entry.operation filter =
      if entry.operation.heedsFilter then filter.map entry.conditionOf else none := by
  cases filter with
  | none =>
      unfold conditionFilter
      simp
  | some parsed =>
      by_cases oneRow : entry.operation = .update .oneRow
      · simp [conditionOf, oneRow, conditionFilter, OperationKind.heedsFilter]
      · have unchanged : entry.conditionOf parsed = parsed := if_neg oneRow
        rw [Option.map_some, unchanged]
        unfold conditionFilter
        split
        next found _ => exact absurd found oneRow
        next => rfl

/-- What an entry lists are the parameters of the condition of its operation. -/
theorem listedParameters_eq (prepared : entry.prepare = .ok (request, operation)) :
    entry.listedParameters compiler request =
      ((operation.condition request).map (·.parameters compiler.setting 0)).getD [] := by
  obtain ⟨read, made⟩ := prepare_eq_ok_iff.mp prepared
  rw [listedParameters, ← kind_of_operationOf made,
    conditionFilter_kind (effectiveFilter_of_request read)]

/-- An entry with a filter that its operation heeds has this filter for its condition. -/
theorem condition_of_filter {bag : Json} (prepared : entry.prepare = .ok (request, operation))
    (given : entry.filter = some bag) (heeds : entry.operation.heedsFilter = true) :
    ∃ parsed, Filter.ofBag bag = .ok parsed ∧
      operation.condition request = some (entry.conditionOf parsed) := by
  obtain ⟨read, made⟩ := prepare_eq_ok_iff.mp prepared
  rcases filter_of_request read with ⟨noBag, -⟩ | ⟨other, parsed, sameBag, parse, filter⟩
  · rw [noBag] at given
    cases given
  · obtain rfl : other = bag := Option.some.inj (sameBag.symm.trans given)
    refine ⟨parsed, parse, ?_⟩
    rw [← conditionFilter_kind (effectiveFilter_of_request read), kind_of_operationOf made,
      conditionFilter_eq, if_pos heeds, filter, Option.map_some]

/-- Any other entry has no condition from a filter. -/
theorem condition_of_no_filter (prepared : entry.prepare = .ok (request, operation))
    (without : entry.filter = none ∨ entry.operation.heedsFilter = false) :
    operation.condition request = none := by
  obtain ⟨read, made⟩ := prepare_eq_ok_iff.mp prepared
  rw [← conditionFilter_kind (effectiveFilter_of_request read), kind_of_operationOf made,
    conditionFilter_eq]
  rcases without with noFilter | unheeding
  · rw [(filter_eq_none_iff read).mpr noFilter, Option.map_none, ite_self]
  · rw [unheeding]
    rfl

theorem matchesQualifiers_iff (prepared : entry.prepare = .ok (request, operation)) :
    entry.MatchesQualifiers ↔
      ∃ extent, operation = .update extent ∧ Compiler.heededFilter request extent = none := by
  obtain ⟨read, made⟩ := prepare_eq_ok_iff.mp prepared
  unfold MatchesQualifiers
  rw [← kind_of_operationOf made, ← filter_eq_none_iff read, ← effectiveFilter_of_request read]
  cases operation with
  | update extent => cases extent <;> simp [Operation.kind, Compiler.heededFilter]
  | _ => simp [Operation.kind]

theorem constructed_conditionOf (entry : RequestEntry) {parsed : Filter}
    (constructed : ∀ comparator ∈ parsed.comparators, comparator.Constructed) :
    ∀ comparator ∈ (entry.conditionOf parsed).comparators, comparator.Constructed := by
  unfold conditionOf
  split
  next => exact Filter.constructed_forUpdate constructed
  next => exact constructed

/-- Without a filter that is not heeded an entry compiles to the same. -/
theorem compile_unfiltered (without : entry.filter = none ∨ entry.operation.heedsFilter = false)
    (accepted : entry.compile compiler configuration = .ok compiled) :
    entry.unfiltered.compile compiler configuration = .ok compiled := by
  rcases without with noFilter | unheeding
  · have same : entry.unfiltered = entry := by rw [unfiltered, ← noFilter]
    rw [same, accepted]
  · obtain ⟨request, operation, statements, prepared, acceptedStatements, rfl⟩ :=
      compile_eq_ok_iff.mp accepted
    obtain ⟨read, made⟩ := prepare_eq_ok_iff.mp prepared
    have unheedingKind : operation.kind.heedsFilter = false := by
      rw [kind_of_operationOf made, unheeding]
    have noParameter (other : Request) : entry.listedParameters compiler other = [] := by
      rw [listedParameters, conditionFilter_eq, unheeding]
      rfl
    refine compile_eq_ok_iff.mpr ⟨request.unfiltered, operation, statements,
      prepare_eq_ok_iff.mpr ⟨request_unfiltered read, made⟩, ?_, ?_⟩
    · rw [Compiler.compile_unfiltered unheedingKind, acceptedStatements]
    · rw [noParameter, ← noParameter request.unfiltered]
      rfl

section Names

variable {statements : List Statement}

/-- With a filter that is heeded, the listed parameters are the compared ones. -/
theorem names_listedParameters_of_filter {bag : Json}
    (prepared : entry.prepare = .ok (request, operation))
    (accepted : compiler.compile configuration operation request = .ok statements)
    (given : entry.filter = some bag) (heeds : entry.operation.heedsFilter = true) :
    (entry.listedParameters compiler request).map BoundParameter.name =
      (Placeholder.names .compared (Statement.allPlaceholders compiler.setting statements)).map
        (compiler.setting.parameterMark ++ ·) := by
  obtain ⟨parsed, parse, condition⟩ := condition_of_filter prepared given heeds
  obtain ⟨statement, rfl, compares⟩ := Compiler.exists_statement_of_condition accepted condition
  have constructed := constructed_conditionOf entry (Filter.comparators_of_ofBag parse).2
  rw [listedParameters_eq prepared, condition, Option.map_some, Option.getD_some,
    Filter.map_name_eq_placeholderNames constructed, Statement.allPlaceholders_eq_flatMap,
    List.flatMap_singleton, compares.names]

/-- Without one, nothing is compared either, unless the qualifiers are. -/
theorem names_compared_eq_nil_iff (prepared : entry.prepare = .ok (request, operation))
    (accepted : compiler.compile configuration operation request = .ok statements)
    (without : entry.filter = none ∨ entry.operation.heedsFilter = false) :
    Placeholder.names .compared (Statement.allPlaceholders compiler.setting statements) = [] ↔
      ¬ entry.MatchesQualifiers := by
  have unconditional := condition_of_no_filter prepared without
  rw [matchesQualifiers_iff prepared]
  constructor
  · rintro noName ⟨extent, rfl, unfiltered⟩
    exact Compiler.names_compared_ne_nil_of_qualifiers accepted unfiltered noName
  · intro notByQualifiers
    apply Compiler.names_compared_of_no_condition accepted _ unconditional
    rintro extent rfl
    exact notByQualifiers ⟨extent, rfl, Option.map_eq_none_iff.mp unconditional⟩

/-- The listed parameters are the compared ones, except for an update by qualifiers. -/
theorem names_listedParameters_iff (prepared : entry.prepare = .ok (request, operation))
    (accepted : compiler.compile configuration operation request = .ok statements) :
    (entry.listedParameters compiler request).map BoundParameter.name =
        (Placeholder.names .compared
          (Statement.allPlaceholders compiler.setting statements)).map
            (compiler.setting.parameterMark ++ ·) ↔
      ¬ entry.MatchesQualifiers := by
  by_cases without : entry.filter = none ∨ entry.operation.heedsFilter = false
  · rw [listedParameters_eq prepared, condition_of_no_filter prepared without, Option.map_none,
      Option.getD_none, List.map_nil, eq_comm, List.map_eq_nil_iff,
      names_compared_eq_nil_iff prepared accepted without]
  · obtain ⟨filtered, heeds⟩ := not_or.mp without
    obtain ⟨bag, given⟩ := Option.ne_none_iff_exists'.mp filtered
    have names := names_listedParameters_of_filter prepared accepted given
      (Bool.eq_true_of_not_eq_false heeds)
    refine iff_of_true names ?_
    rintro (batch | ⟨-, noFilter⟩)
    · rw [batch] at heeds
      exact heeds rfl
    · exact filtered noFilter

end Names

/--
An accepted entry whose operation heeds its filter has the text of the filter
behind `WHERE` and lists the parameters of the filter; the filter of an update
is the one for updates.  Any other accepted entry lists no parameter and has the
same text without its filter.  The names that are listed are those that the
conditions of the text compare, in this order, exactly if the entry does not
update by its qualifiers.
-/
theorem lists_condition_parameters {before : StatementText}
    (accepted : (entry.compileOver compiler configuration before).1 = .ok compiled) :
    (∀ bag, entry.filter = some bag → entry.operation.heedsFilter = true →
      ∃ parsed front back, Filter.ofBag bag = .ok parsed ∧
        compiled.text =
          front ++ "WHERE " ++ (entry.conditionOf parsed).text compiler.setting 0 ++ back ∧
        compiled.parameters = (entry.conditionOf parsed).parameters compiler.setting 0) ∧
    (entry.filter = none ∨ entry.operation.heedsFilter = false →
      compiled.parameters = [] ∧
        (entry.unfiltered.compileOver compiler configuration before).1 = .ok compiled) ∧
    ∃ request operation statements, entry.prepare = .ok (request, operation) ∧
      compiler.compile configuration operation request = .ok statements ∧
      compiled.text = (compiler.written statements).finished ∧
      (∀ mark, (Statement.allFragments compiler.setting statements).map (Fragments.spell mark) =
        Statement.allWords (compiler.setting.withMark mark) statements) ∧
      (compiled.parameters.map BoundParameter.name =
          (Placeholder.names .compared
            (Statement.allPlaceholders compiler.setting statements)).map
              (compiler.setting.parameterMark ++ ·) ↔
        ¬ entry.MatchesQualifiers) := by
  rw [compileOver_fst] at accepted
  obtain ⟨request, operation, statements, prepared, acceptedStatements, rfl⟩ :=
    compile_eq_ok_iff.mp accepted
  refine ⟨?_, ?_, request, operation, statements, prepared, acceptedStatements, rfl,
    Statement.map_spell_allFragments compiler.setting statements,
    names_listedParameters_iff prepared acceptedStatements⟩
  · intro bag given heeds
    obtain ⟨parsed, parse, condition⟩ := condition_of_filter prepared given heeds
    obtain ⟨statement, rfl, compares⟩ :=
      Compiler.exists_statement_of_condition acceptedStatements condition
    obtain ⟨front, back, text⟩ := StatementText.exists_where_text compares.condition
      (Filter.text_ne_empty (Compiler.comparators_ne_nil_of_condition condition) _ 0)
    refine ⟨parsed, front, back, parse, ?_, ?_⟩
    · rw [Compiler.written, Statement.allWords_singleton, Statement.words, text]
    · rw [listedParameters_eq prepared, condition]
      rfl
  · intro without
    have unconditional := condition_of_no_filter prepared without
    have noParameter : entry.listedParameters compiler request = [] := by
      rw [listedParameters_eq prepared, unconditional]
      rfl
    refine ⟨noParameter, ?_⟩
    rw [compileOver_fst, compile_unfiltered without accepted]

/-- An entry that names a person anew, without saying which. -/
def renamedByKey : RequestEntry where
  operation := .update .oneRow
  table := "Person"
  fields := [{ name := "Id" }, { name := "Name" }]
  columns := [.primary "Id"]

/-- The entry with a filter for the person. -/
def renamedByFilter : RequestEntry :=
  { renamedByKey with filter := some (.object [("Id", .string "x")]) }

theorem lists_condition_parameters_renamedByFilter :
    ∃ compiled parsed front back,
      (renamedByFilter.compileOver Dialect.sqlServer.compiler .initial {}).1 = .ok compiled ∧
      Filter.ofBag (.object [("Id", .string "x")]) = .ok parsed ∧
      compiled.text = front ++ "WHERE " ++ "([Id] = @_Id)" ++ back ∧
      compiled.parameters.map BoundParameter.name = ["@_Id"] ∧
      compiled.parameters =
        parsed.forUpdate.parameters Dialect.sqlServer.compiler.setting 0 := by
  have shown : (renamedByFilter.compileOver Dialect.sqlServer.compiler .initial {}).1.map
      (fun compiled => compiled.parameters.map BoundParameter.name) = .ok ["@_Id"] := by
    decide +kernel
  obtain ⟨compiled, accepted, names⟩ := map_eq_ok_iff.mp shown
  obtain ⟨heeded, -, -⟩ := lists_condition_parameters accepted
  obtain ⟨parsed, front, back, parse, text, parameters⟩ := heeded _ rfl rfl
  have condition : (Filter.ofBag (.object [("Id", .string "x")])).map
      (fun parsed => parsed.forUpdate.text Dialect.sqlServer.compiler.setting 0) =
        .ok "([Id] = @_Id)" := by
    decide +kernel
  obtain ⟨other, sameParse, predicate⟩ := map_eq_ok_iff.mp condition
  obtain rfl : parsed = other := Except.ok.inj (parse.symm.trans sameParse)
  have updated : renamedByFilter.conditionOf parsed = parsed.forUpdate := if_pos rfl
  rw [updated, predicate] at text
  rw [updated] at parameters
  exact ⟨compiled, parsed, front, back, accepted, parse, text, names, parameters⟩

/-- Without the filter the key is compared and no parameter is listed. -/
theorem unlisted_key_parameter :
    ∃ compiled request operation statements,
      (renamedByKey.compileOver Dialect.sqlServer.compiler .initial {}).1 = .ok compiled ∧
      renamedByKey.prepare = .ok (request, operation) ∧
      Dialect.sqlServer.compiler.compile .initial operation request = .ok statements ∧
      compiled.text = "UPDATE [Person] SET [Name] = @Name WHERE ([Id] = @Id) ;" ∧
      compiled.parameters.map BoundParameter.name = [] ∧
      Placeholder.names .compared
        (Statement.allPlaceholders Dialect.sqlServer.compiler.setting statements) = ["Id"] := by
  have shown : (renamedByKey.compileOver Dialect.sqlServer.compiler .initial {}).1.map
      (fun compiled => (compiled.text, compiled.parameters.map BoundParameter.name)) =
        .ok ("UPDATE [Person] SET [Name] = @Name WHERE ([Id] = @Id) ;", []) := by
    decide +kernel
  have compared : renamedByKey.prepare.map (fun prepared =>
      (Dialect.sqlServer.compiler.compile .initial prepared.2 prepared.1).map
        (fun statements => Placeholder.names .compared
          (Statement.allPlaceholders Dialect.sqlServer.compiler.setting statements))) =
        .ok (.ok ["Id"]) := by
    decide +kernel
  obtain ⟨compiled, accepted, parts⟩ := map_eq_ok_iff.mp shown
  obtain ⟨text, names⟩ := Prod.mk.inj parts
  obtain ⟨⟨request, operation⟩, prepared, inner⟩ := map_eq_ok_iff.mp compared
  obtain ⟨statements, acceptedStatements, key⟩ := map_eq_ok_iff.mp inner
  exact ⟨compiled, request, operation, statements, accepted, prepared, acceptedStatements, text,
    names, key⟩

end RequestEntry

end SqlCompiler
