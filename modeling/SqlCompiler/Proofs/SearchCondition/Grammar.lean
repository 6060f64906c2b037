import SqlCompiler.Proofs.SearchCondition.Truth

/-!
# The grammar of search conditions

A search condition is terms joined by `OR`, a term is factors joined by `AND`,
and a factor is a primary behind any number of `NOT`.  Primaries are leaves,
whose texts are opaque, and conditions in parentheses.  So `NOT` binds tighter
than `AND`, and `AND` tighter than `OR`.

The parser reads the tokens once from left to right and keeps what is open on
a stack.  It accepts exactly what the grammar derives and gives the condition
derived, so every list of tokens is read in at most one way.
-/

namespace SqlCompiler

/-- A search condition over numbered leaves. -/
inductive SearchCondition where
  | leaf (place : Nat)
  | not (inner : SearchCondition)
  | and (first second : SearchCondition)
  | or (first second : SearchCondition)
  deriving DecidableEq, Repr

namespace SearchCondition

/-- The tokens of search conditions; leaves are told apart by their places. -/
inductive Token where
  | opening
  | closing
  | not
  | and
  | or
  | leaf (place : Nat)
  deriving DecidableEq, Repr

def value {Truth : Type} (logic : Logic Truth) (assignment : Nat → Truth) :
    SearchCondition → Truth
  | .leaf place => assignment place
  | .not inner => logic.negation (inner.value logic assignment)
  | .and first second =>
      logic.combine .and (first.value logic assignment) (second.value logic assignment)
  | .or first second =>
      logic.combine .or (first.value logic assignment) (second.value logic assignment)

/-- The parts that search conditions are built of. -/
inductive Level where
  | condition
  | term
  | factor
  | primary

/-- The grammar of search conditions. -/
inductive Derives : Level → List Token → SearchCondition → Prop where
  | leaf (place : Nat) : Derives .primary [.leaf place] (.leaf place)
  | parentheses {tokens : List Token} {inner : SearchCondition}
      (whole : Derives .condition tokens inner) :
      Derives .primary (.opening :: (tokens ++ [.closing])) inner
  | ofPrimary {tokens : List Token} {inner : SearchCondition}
      (whole : Derives .primary tokens inner) : Derives .factor tokens inner
  | not {tokens : List Token} {inner : SearchCondition} (whole : Derives .factor tokens inner) :
      Derives .factor (.not :: tokens) (.not inner)
  | ofFactor {tokens : List Token} {inner : SearchCondition}
      (whole : Derives .factor tokens inner) : Derives .term tokens inner
  | and {tokens later : List Token} {first second : SearchCondition}
      (front : Derives .term tokens first) (back : Derives .factor later second) :
      Derives .term (tokens ++ .and :: later) (.and first second)
  | ofTerm {tokens : List Token} {inner : SearchCondition}
      (whole : Derives .term tokens inner) : Derives .condition tokens inner
  | or {tokens later : List Token} {first second : SearchCondition}
      (front : Derives .condition tokens first) (back : Derives .term later second) :
      Derives .condition (tokens ++ .or :: later) (.or first second)

/-- What was read in front of an operand, behind the last open parenthesis. -/
structure Frame where
  condition : Option SearchCondition := none
  term : Option SearchCondition := none
  negations : Nat := 0

/--
Where the parser stands.

It waits for an operand, or it stands behind one with a complete term.  The
frames of the open parentheses are kept from the innermost one on.
-/
inductive ParseState where
  | awaiting (frame : Frame) (enclosing : List Frame)
  | complete (condition : Option SearchCondition) (term : SearchCondition)
      (enclosing : List Frame)

def orAfter (condition : Option SearchCondition) (term : SearchCondition) : SearchCondition :=
  condition.elim term (.or · term)

def andAfter (term : Option SearchCondition) (factor : SearchCondition) : SearchCondition :=
  term.elim factor (.and · factor)

def negate : Nat → SearchCondition → SearchCondition
  | 0, operand => operand
  | count + 1, operand => negate count (.not operand)

/-- The state behind an operand that a frame was waiting for. -/
def Frame.accept (frame : Frame) (operand : SearchCondition) (enclosing : List Frame) :
    ParseState :=
  .complete frame.condition (andAfter frame.term (negate frame.negations operand)) enclosing

def step : ParseState → Token → Option ParseState
  | .awaiting frame enclosing, .leaf place => some (frame.accept (.leaf place) enclosing)
  | .awaiting frame enclosing, .not =>
      some (.awaiting { frame with negations := frame.negations + 1 } enclosing)
  | .awaiting frame enclosing, .opening => some (.awaiting {} (frame :: enclosing))
  | .complete condition term enclosing, .and =>
      some (.awaiting { condition := condition, term := some term } enclosing)
  | .complete condition term enclosing, .or =>
      some (.awaiting { condition := some (orAfter condition term) } enclosing)
  | .complete condition term (frame :: enclosing), .closing =>
      some (frame.accept (orAfter condition term) enclosing)
  | _, _ => none

def run (state : ParseState) (tokens : List Token) : Option ParseState :=
  tokens.foldlM step state

/-- The condition that all the tokens make. -/
def parse (tokens : List Token) : Option SearchCondition :=
  match run (.awaiting {} []) tokens with
  | some (.complete condition term []) => some (orAfter condition term)
  | _ => none

@[simp]
theorem run_nil (state : ParseState) : run state [] = some state :=
  rfl

@[simp]
theorem run_cons (state : ParseState) (token : Token) (tokens : List Token) :
    run state (token :: tokens) = (step state token).bind (run · tokens) :=
  rfl

theorem run_append (state : ParseState) (first second : List Token) :
    run state (first ++ second) = (run state first).bind (run · second) := by
  simp [run, List.foldlM_append]

/-- What a part of a condition does to the state in which an operand is awaited. -/
def Accepted (tokens : List Token) (inner : SearchCondition) : Level → Prop
  | .condition => ∀ enclosing, ∃ condition term,
      run (.awaiting {} enclosing) tokens = some (.complete condition term enclosing) ∧
        orAfter condition term = inner
  | .term => ∀ condition enclosing,
      run (.awaiting { condition := condition } enclosing) tokens =
        some (.complete condition inner enclosing)
  | .factor | .primary => ∀ frame enclosing,
      run (.awaiting frame enclosing) tokens = some (frame.accept inner enclosing)

/-- The parser accepts every part that the grammar derives. -/
theorem accepted_of_derives {level : Level} {tokens : List Token} {inner : SearchCondition}
    (derives : Derives level tokens inner) : Accepted tokens inner level := by
  induction derives with
  | leaf place =>
      intro frame enclosing
      rfl
  | @parentheses tokens inner whole ih =>
      intro frame enclosing
      obtain ⟨condition, term, reached, rfl⟩ := ih (frame :: enclosing)
      simp [step, run_append, reached]
  | ofPrimary whole ih => exact ih
  | not whole ih =>
      intro frame enclosing
      exact ih { frame with negations := frame.negations + 1 } enclosing
  | ofFactor whole ih =>
      intro condition enclosing
      exact ih { condition := condition } enclosing
  | @and tokens later first second front back frontIH backIH =>
      intro condition enclosing
      rw [run_append, frontIH condition enclosing]
      exact backIH { condition := condition, term := some first } enclosing
  | ofTerm whole ih =>
      intro enclosing
      exact ⟨none, _, ih none enclosing, rfl⟩
  | @or tokens later first second front back frontIH backIH =>
      intro enclosing
      obtain ⟨condition, term, reached, rfl⟩ := frontIH enclosing
      refine ⟨some (orAfter condition term), second, ?_, rfl⟩
      rw [run_append, reached]
      exact backIH (some (orAfter condition term)) enclosing

inductive ReadsTerms : Option SearchCondition → List Token → Prop where
  | none : ReadsTerms none []
  | some {tokens : List Token} {condition : SearchCondition}
      (derives : Derives .condition tokens condition) :
      ReadsTerms (some condition) (tokens ++ [.or])

inductive ReadsFactors : Option SearchCondition → List Token → Prop where
  | none : ReadsFactors none []
  | some {tokens : List Token} {term : SearchCondition} (derives : Derives .term tokens term) :
      ReadsFactors (some term) (tokens ++ [.and])

/-- The tokens that a frame was made of. -/
inductive ReadsFrame : Frame → List Token → Prop where
  | mk {condition term : Option SearchCondition} {terms factors : List Token} (negations : Nat)
      (readsTerms : ReadsTerms condition terms) (readsFactors : ReadsFactors term factors) :
      ReadsFrame { condition, term, negations }
        (terms ++ factors ++ List.replicate negations .not)

inductive ReadsEnclosing : List Frame → List Token → Prop where
  | nil : ReadsEnclosing [] []
  | cons {frame : Frame} {frames : List Frame} {own tokens : List Token}
      (readsFrame : ReadsFrame frame own) (outer : ReadsEnclosing frames tokens) :
      ReadsEnclosing (frame :: frames) (tokens ++ own ++ [.opening])

/-- The tokens that lead to a state. -/
inductive Reads : ParseState → List Token → Prop where
  | awaiting {frame : Frame} {enclosing : List Frame} {own tokens : List Token}
      (readsFrame : ReadsFrame frame own) (outer : ReadsEnclosing enclosing tokens) :
      Reads (.awaiting frame enclosing) (tokens ++ own)
  | complete {condition : Option SearchCondition} {term : SearchCondition}
      {enclosing : List Frame} {own terms tokens : List Token}
      (readsTerms : ReadsTerms condition terms) (derives : Derives .term own term)
      (outer : ReadsEnclosing enclosing tokens) :
      Reads (.complete condition term enclosing) (tokens ++ terms ++ own)

theorem derives_orAfter {condition : Option SearchCondition} {term : SearchCondition}
    {terms own : List Token} (readsTerms : ReadsTerms condition terms)
    (derives : Derives .term own term) :
    Derives .condition (terms ++ own) (orAfter condition term) := by
  cases readsTerms with
  | none => exact .ofTerm derives
  | some front => simpa [orAfter] using Derives.or front derives

theorem derives_andAfter {term : Option SearchCondition} {factor : SearchCondition}
    {factors own : List Token} (readsFactors : ReadsFactors term factors)
    (derives : Derives .factor own factor) :
    Derives .term (factors ++ own) (andAfter term factor) := by
  cases readsFactors with
  | none => exact .ofFactor derives
  | some front => simpa [andAfter] using Derives.and front derives

theorem derives_negate (negations : Nat) {factor : SearchCondition} {own : List Token}
    (derives : Derives .factor own factor) :
    Derives .factor (List.replicate negations .not ++ own) (negate negations factor) := by
  induction negations generalizing factor own with
  | zero => exact derives
  | succ negations ih =>
      rw [List.replicate_succ', List.append_assoc]
      exact ih (.not derives)

theorem reads_accept {frame : Frame} {enclosing : List Frame} {operand : SearchCondition}
    {frameTokens own tokens : List Token} (readsFrame : ReadsFrame frame frameTokens)
    (derives : Derives .primary own operand) (outer : ReadsEnclosing enclosing tokens) :
    Reads (frame.accept operand enclosing) (tokens ++ frameTokens ++ own) := by
  cases readsFrame with
  | @mk condition term terms factors negations readsTerms readsFactors =>
      have factor := derives_andAfter readsFactors (derives_negate negations (.ofPrimary derives))
      simpa [Frame.accept, List.append_assoc] using Reads.complete readsTerms factor outer

theorem reads_step {state next : ParseState} {token : Token} {tokens : List Token}
    (reads : Reads state tokens) (stepTo : step state token = some next) :
    Reads next (tokens ++ [token]) := by
  cases reads with
  | @awaiting frame enclosing own tokens readsFrame outer =>
      cases token with
      | leaf place =>
          obtain rfl : frame.accept (.leaf place) enclosing = next := by simpa [step] using stepTo
          exact reads_accept readsFrame (.leaf place) outer
      | not =>
          simp only [step, Option.some.injEq] at stepTo
          subst stepTo
          cases readsFrame with
          | @mk condition term terms factors negations readsTerms readsFactors =>
              have longer := ReadsFrame.mk (negations + 1) readsTerms readsFactors
              simpa [List.replicate_succ', List.append_assoc] using Reads.awaiting longer outer
      | opening =>
          simp only [step, Option.some.injEq] at stepTo
          subst stepTo
          have empty : ReadsFrame {} [] := .mk 0 .none .none
          simpa [List.append_assoc] using Reads.awaiting empty (.cons readsFrame outer)
      | _ => simp [step] at stepTo
  | @complete condition term enclosing own terms tokens readsTerms derives outer =>
      cases token with
      | and =>
          simp only [step, Option.some.injEq] at stepTo
          subst stepTo
          have frame := ReadsFrame.mk 0 readsTerms (.some derives)
          simpa [List.append_assoc] using Reads.awaiting frame outer
      | or =>
          simp only [step, Option.some.injEq] at stepTo
          subst stepTo
          have frame := ReadsFrame.mk 0 (.some (derives_orAfter readsTerms derives)) .none
          simpa [List.append_assoc] using Reads.awaiting frame outer
      | closing =>
          cases outer with
          | nil => simp [step] at stepTo
          | cons readsFrame outer =>
              simp only [step, Option.some.injEq] at stepTo
              subst stepTo
              have whole := Derives.parentheses (derives_orAfter readsTerms derives)
              simpa [List.append_assoc] using reads_accept readsFrame whole outer
      | _ => simp [step] at stepTo

theorem reads_run {state last : ParseState} {before tokens : List Token}
    (reads : Reads state before) (runTo : run state tokens = some last) :
    Reads last (before ++ tokens) := by
  induction tokens generalizing state before with
  | nil =>
      obtain rfl : state = last := by simpa using runTo
      simpa using reads
  | cons token tokens ih =>
      obtain ⟨next, stepTo, later⟩ := Option.bind_eq_some_iff.mp runTo
      simpa [List.append_assoc] using ih (reads_step reads stepTo) later

/-- The parser accepts exactly the conditions of the grammar. -/
theorem parse_eq_some_iff (tokens : List Token) (condition : SearchCondition) :
    parse tokens = some condition ↔ Derives .condition tokens condition := by
  constructor
  · intro parsed
    unfold parse at parsed
    split at parsed
    next before term reached =>
      obtain rfl : orAfter before term = condition := by simpa using parsed
      have start : Reads (.awaiting {} []) [] := .awaiting (.mk 0 .none .none) .nil
      cases reads_run start reached with
      | complete readsTerms derives outer =>
          cases outer with
          | nil => simpa using derives_orAfter readsTerms derives
    next => simp at parsed
  · intro derives
    obtain ⟨before, term, reached, rfl⟩ := accepted_of_derives derives []
    simp [parse, reached]

end SearchCondition

end SqlCompiler
