/-!
# Reasons to refuse

Every refusal has one cause, one constructor here.  A cause belongs to one of
seven kinds, and its message is the label of the kind, a colon and the detail.
No statement text is ever returned together with a refusal.
-/

namespace SqlCompiler

/-- The kinds of refusals. -/
inductive ErrorKind where
  | configuration
  | missingInput
  | missingQualifiers
  | empty
  | schemaMismatch
  | notSupported
  | invalidOperation
  deriving DecidableEq, Repr

namespace ErrorKind

def label : ErrorKind → String
  | .configuration => "Configuration error"
  | .missingInput => "Missing input"
  | .missingQualifiers => "Missing qualifiers"
  | .empty => "Empty field list"
  | .schemaMismatch => "Schema mismatch"
  | .notSupported => "Not supported"
  | .invalidOperation => "Invalid operation"

end ErrorKind

/-- The causes of refusals. -/
inductive CompileError where
  | unknownDialect (name : String)
  | unknownKeyPolicy (name : String)
  | unknownKeyPolicyNumber (number : Nat)
  | primaryNotFlagged (column : String)
  | identityNotFlagged (column : String)
  | blankFieldName
  | blankTableName
  | noFields
  | noOrder
  | noQualifiers (table : String)
  | noInsertableFields (table : String)
  | noUpdatableFields (table : String)
  | unmappedField (field table : String)
  | unlistedQualifier (qualifier : String)
  | hintsNotSupported
  | hintsOnTruncate
  | batchNotSupported (rows : Nat)
  | dialectRequired
  | bagNotObject (kind : String)
  | bagWithoutMembers
  | bagKeyNotText
  | bagKeyNotFinite
  | orderNotText (field : String)
  | unknownOrder (name : String)
  | unknownComparison (name : String)
  | unknownConjunction (name : String)
  | rangeNeedsTwoValues (field comparison : String)
  | listNeedsValues (field comparison : String)
  | templateWithoutColumn (template : String)
  | operationMissing (field : String)
  | operationNotText (field : String)
  | twoColumnsCompared (first second : String)
  | noColumnCompared
  | functionNotSupported (function : String)
  | noRowsPerPage
  | pageOutOfRange (page rows : Nat)
  deriving DecidableEq, Repr

namespace CompileError

def kind : CompileError → ErrorKind
  | .unknownDialect _ | .unknownKeyPolicy _ | .unknownKeyPolicyNumber _
  | .primaryNotFlagged _ | .identityNotFlagged _ => .configuration
  | .blankFieldName | .blankTableName | .noFields | .noOrder => .missingInput
  | .noQualifiers _ => .missingQualifiers
  | .noInsertableFields _ | .noUpdatableFields _ => .empty
  | .unmappedField _ _ | .unlistedQualifier _ => .schemaMismatch
  | .hintsNotSupported | .hintsOnTruncate | .batchNotSupported _ | .dialectRequired =>
      .notSupported
  | .bagNotObject _ | .bagWithoutMembers | .bagKeyNotText | .bagKeyNotFinite
  | .orderNotText _ | .unknownOrder _ | .unknownComparison _ | .unknownConjunction _
  | .rangeNeedsTwoValues _ _ | .listNeedsValues _ _ | .templateWithoutColumn _
  | .operationMissing _ | .operationNotText _ | .twoColumnsCompared _ _
  | .noColumnCompared | .functionNotSupported _ | .noRowsPerPage | .pageOutOfRange _ _ =>
      .invalidOperation

def detail : CompileError → String
  | .unknownDialect name => s!"unknown dialect '{name}'"
  | .unknownKeyPolicy name => s!"key column return behavior '{name}' is not handled"
  | .unknownKeyPolicyNumber number => s!"key column return behavior {number} is not handled"
  | .primaryNotFlagged column =>
      s!"'{column}' is used as the primary field but is not flagged as primary"
  | .identityNotFlagged column =>
      s!"'{column}' is used as the identity field but is not flagged as identity"
  | .blankFieldName => "field name cannot be empty"
  | .blankTableName => "the table name is required"
  | .noFields => "the field list is required"
  | .noOrder => "a batch query needs at least one order field"
  | .noQualifiers table => s!"no qualifiers were given and '{table}' has no primary field"
  | .noInsertableFields table => s!"no insertable fields are left for '{table}'"
  | .noUpdatableFields table => s!"no updatable fields are left for '{table}'"
  | .unmappedField field table => s!"field '{field}' is not a column of '{table}'"
  | .unlistedQualifier qualifier => s!"qualifier '{qualifier}' is not present in the field list"
  | .hintsNotSupported => "table hints are not supported by this dialect"
  | .hintsOnTruncate => "TRUNCATE does not accept table hints"
  | .batchNotSupported rows =>
      s!"batch size {rows} needs multi-statement execution, which this dialect does not allow"
  | .dialectRequired => "generic"
  | .bagNotObject kind => s!"expected an object-like bag, got {kind}"
  | .bagWithoutMembers => "the bag does not have any readable members"
  | .bagKeyNotText => "key must be a string"
  | .bagKeyNotFinite => "float key must be finite"
  | .orderNotText field => s!"the order of '{field}' must be a direction string"
  | .unknownOrder name => s!"'{name}' is not a valid order direction"
  | .unknownComparison name => s!"'{name}' is not a known operation"
  | .unknownConjunction name => s!"'{name}' is not a conjunction"
  | .rangeNeedsTwoValues field comparison =>
      s!"'{field}' {comparison} needs exactly two values"
  | .listNeedsValues field comparison => s!"'{field}' {comparison} needs a list of values"
  | .templateWithoutColumn template =>
      "function template '" ++ template ++ "' has no \x7b0\x7d placeholder"
  | .operationMissing field =>
      s!"the value of '{field}' is an object without an 'operation'"
  | .operationNotText field => s!"the operation of '{field}' must be a string"
  | .twoColumnsCompared first second =>
      s!"comparing column '{first}' with column '{second}' is not supported"
  | .noColumnCompared => "a comparison needs a column on one side"
  | .functionNotSupported function =>
      s!"function '{function}' is not supported in a predicate"
  | .noRowsPerPage => "rows per batch must be greater than zero"
  | .pageOutOfRange page rows => s!"page {page} of {rows} rows is out of range"

def message (error : CompileError) : String :=
  error.kind.label ++ ": " ++ error.detail

/-- Two refusals with one label belong to one kind. -/
theorem kind_eq_of_label_eq {first second : ErrorKind} (same : first.label = second.label) :
    first = second := by
  cases first <;> cases second <;> first | rfl | (exact absurd same (by decide))

end CompileError

/-- Steps in a row are accepted exactly when the first gives a value with which the rest are. -/
theorem bind_eq_ok_iff {ε α β : Type} {step : Except ε α} {rest : α → Except ε β} {result : β} :
    step >>= rest = .ok result ↔ ∃ value, step = .ok value ∧ rest value = .ok result := by
  cases step <;> simp [bind, Except.bind]

/-- A check in front of other steps is accepted together with them. -/
theorem check_bind_eq_ok_iff {β : Type} {check : Except CompileError Unit}
    {rest : Except CompileError β} {result : β} :
    (check >>= fun _ => rest) = .ok result ↔ check = .ok () ∧ rest = .ok result := by
  cases check <;> simp [bind, Except.bind]

theorem map_eq_ok_iff {ε α β : Type} {step : Except ε α} {change : α → β} {result : β} :
    step.map change = .ok result ↔ ∃ value, step = .ok value ∧ change value = result := by
  cases step <;> simp [Except.map]

theorem mapError_eq_ok_iff {ε δ α : Type} {step : Except ε α} {change : ε → δ} {result : α} :
    step.mapError change = .ok result ↔ step = .ok result := by
  cases step with
  | error error => constructor <;> intro same <;> cases same
  | ok value => constructor <;> intro same <;> cases same <;> rfl

/-- A change of the value is no part of a refusal. -/
theorem map_eq_error_iff {ε α β : Type} {step : Except ε α} {change : α → β} {error : ε} :
    step.map change = .error error ↔ step = .error error := by
  cases step <;> simp [Except.map]

end SqlCompiler
