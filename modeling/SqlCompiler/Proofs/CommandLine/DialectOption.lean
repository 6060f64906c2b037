import SqlCompiler.CommandLine.Arguments
import SqlCompiler.Proofs.Error.InOrder
import SqlCompiler.Proofs.Text.Keyword

/-!
# Two spellings of one option

The dialect is given as two arguments or as one with an equals sign.  Both
spellings read the same, whatever stands around them, as long as the value does
not itself begin with the option and an equals sign.  In front of such a value
the sign strips every repetition of the option, which the two arguments keep,
so a value that no dialect has can turn into the name of one.
-/

namespace SqlCompiler

/-- No name of a dialect holds an equals sign. -/
theorem Dialect.not_mem_of_parse {text : String} {dialect : Dialect}
    (parsed : parse text = .ok dialect) : '=' ∉ text.toList := by
  have free : ∀ entry ∈ spellings, ∀ word ∈ entry.1, word.toList.count '=' = 0 := by decide
  unfold parse Text.lookup at parsed
  split at parsed
  next found =>
    obtain ⟨entry, chosen, -⟩ := Option.map_eq_some_iff.mp found
    have listed : Text.plainKeyword text ∈ entry.1 := by
      simpa using List.find?_some chosen
    have keyword := free entry (List.mem_of_find?_eq_some chosen) _ listed
    rw [Text.count_plainKeyword (by decide) (by decide)] at keyword
    exact List.count_eq_zero.mp keyword
  next => cases parsed

theorem Dialect.eq_of_parse_eq_error {text : String} {error : CompileError}
    (refused : parse text = .error error) : error = .unknownDialect (Text.plainKeyword text) := by
  unfold parse at refused
  split at refused
  next => cases refused
  next => exact (Except.error.inj refused).symm

namespace CommandLine

variable {file : Option String} {dialect : Option Dialect} {before rest : List String}
  {argument value : String}

/-! ## Steps -/

/-- The option and its value as one argument. -/
def assignment (value : String) : String :=
  dialectOption ++ "=" ++ value

/-- The value of an option as it is read behind an equals sign. -/
def unassigned (value : String) : String :=
  .ofList (dropRepeated dialectAssignment value.toList)

theorem dropRepeated_append {mark : List Char} (nonempty : mark ≠ []) (text : List Char) :
    dropRepeated mark (mark ++ text) = dropRepeated mark text := by
  have first : mark.isPrefixOf (mark ++ text) = true :=
    List.isPrefixOf_iff_prefix.mpr (List.prefix_append mark text)
  rw [dropRepeated, if_pos ⟨nonempty, first⟩, List.drop_left]

theorem toList_assignment (value : String) :
    (assignment value).toList = dialectAssignment ++ value.toList := by
  rw [assignment, String.toList_append]
  rfl

theorem assignedDialect?_assignment (value : String) :
    assignedDialect? (assignment value) = some (unassigned value) := by
  rw [assignedDialect?, toList_assignment,
    if_pos (List.isPrefixOf_iff_prefix.mpr (List.prefix_append _ _)),
    dropRepeated_append (by decide)]
  rfl

theorem parse_compile (arguments : List String) :
    parse ("compile" :: arguments) = parseCompile none none arguments := by
  rw [parse, if_neg (by decide), if_pos rfl]

theorem parseCompile_of_help (asks : asksForHelp argument = true) :
    parseCompile file dialect (argument :: rest) = .ok (.help .compile) := by
  rw [parseCompile.eq_def]
  exact if_pos asks

theorem parseCompile_option :
    parseCompile file dialect (dialectOption :: value :: rest) =
      dialectOf value >>= fun dialect => parseCompile file (some dialect) rest := by
  rw [parseCompile.eq_3, if_neg (by decide), if_pos rfl]

theorem parseCompile_of_assigned (noHelp : ¬asksForHelp argument = true)
    (noOption : argument ≠ dialectOption) (assigned : assignedDialect? argument = some value) :
    parseCompile file dialect (argument :: rest) =
      dialectOf value >>= fun dialect => parseCompile file (some dialect) rest := by
  rw [parseCompile.eq_def]
  simp only [if_neg noHelp, if_neg noOption, assigned]

theorem parseCompile_of_plain (noHelp : ¬asksForHelp argument = true)
    (noOption : argument ≠ dialectOption) (plain : assignedDialect? argument = none) :
    parseCompile file dialect (argument :: rest) =
      if isOption argument then .error [.unknownOption argument]
      else if file.isSome then .error [.unexpectedArgument argument]
      else parseCompile (some argument) dialect rest := by
  rw [parseCompile.eq_def]
  simp only [if_neg noHelp, if_neg noOption, plain]

theorem parseCompile_assignment :
    parseCompile file dialect (assignment value :: rest) =
      dialectOf (unassigned value) >>= fun dialect => parseCompile file (some dialect) rest := by
  have differs (other : String) (short : other.length < dialectAssignment.length) :
      assignment value ≠ other := by
    rintro rfl
    rw [← String.length_toList, toList_assignment, List.length_append] at short
    omega
  refine parseCompile_of_assigned ?_ (differs _ (by decide)) (assignedDialect?_assignment value)
  simp [asksForHelp, differs "-h" (by decide), differs "--help" (by decide)]

/-- The last of some arguments is the option for the dialect, whose value is still to come. -/
def awaitsValue : List String → Bool
  | [] => false
  | [argument] => argument == dialectOption
  | argument :: value :: rest =>
      if argument = dialectOption then awaitsValue rest else awaitsValue (value :: rest)

theorem awaitsValue_cons (noOption : argument ≠ dialectOption) :
    awaitsValue (argument :: rest) = awaitsValue rest := by
  cases rest with
  | nil => simpa [awaitsValue] using noOption
  | cons value rest => rw [awaitsValue, if_neg noOption]

/-- Reading some arguments ends among them or goes on with what stands behind them. -/
theorem parseCompile_append (file : Option String) (dialect : Option Dialect)
    (complete : awaitsValue before = false) :
    (∃ result, ∀ behind, parseCompile file dialect (before ++ behind) = result) ∨
      ∃ file' dialect', ∀ behind,
        parseCompile file dialect (before ++ behind) = parseCompile file' dialect' behind := by
  induction file, dialect, before using parseCompile.induct with
  | case1 file dialect => exact .inr ⟨file, dialect, fun _ => rfl⟩
  | case2 file dialect argument rest asks =>
      exact .inl ⟨_, fun _ => parseCompile_of_help asks⟩
  | case3 => cases complete
  | case4 file dialect value rest _ ih =>
      simp only [List.cons_append, parseCompile_option]
      cases dialectOf value with
      | error failure => exact .inl ⟨.error failure, fun _ => rfl⟩
      | ok dialect => exact ih dialect complete
  | case5 file dialect argument rest noHelp noOption value assigned ih =>
      rw [awaitsValue_cons noOption] at complete
      simp only [List.cons_append, parseCompile_of_assigned noHelp noOption assigned]
      cases dialectOf value with
      | error failure => exact .inl ⟨.error failure, fun _ => rfl⟩
      | ok dialect => exact ih dialect complete
  | case6 file dialect argument rest noHelp noOption plain option =>
      simp only [List.cons_append, parseCompile_of_plain noHelp noOption plain, if_pos option]
      exact .inl ⟨_, fun _ => rfl⟩
  | case7 file dialect argument rest noHelp noOption plain option given =>
      simp only [List.cons_append, parseCompile_of_plain noHelp noOption plain, if_neg option,
        if_pos given]
      exact .inl ⟨_, fun _ => rfl⟩
  | case8 file dialect argument rest noHelp noOption plain option given ih =>
      rw [awaitsValue_cons noOption] at complete
      simp only [List.cons_append, parseCompile_of_plain noHelp noOption plain, if_neg option,
        if_neg given]
      exact ih complete

/-- The dialects that are given decide no refusal. -/
theorem refusal?_parseCompile (file : Option String) (first second : Option Dialect)
    (arguments : List String) :
    refusal? (parseCompile file first arguments) =
      refusal? (parseCompile file second arguments) := by
  induction file, first, arguments using parseCompile.induct generalizing second with
  | case1 file first => rfl
  | case2 file first argument rest asks =>
      rw [parseCompile_of_help asks, parseCompile_of_help asks]
  | case3 => rfl
  | case4 file first value rest _ ih =>
      rw [parseCompile_option, parseCompile_option]
  | case5 file first argument rest noHelp noOption value assigned ih =>
      rw [parseCompile_of_assigned noHelp noOption assigned,
        parseCompile_of_assigned noHelp noOption assigned]
  | case6 file first argument rest noHelp noOption plain option =>
      rw [parseCompile_of_plain noHelp noOption plain, parseCompile_of_plain noHelp noOption plain,
        if_pos option, if_pos option]
  | case7 file first argument rest noHelp noOption plain option given =>
      simp only [parseCompile_of_plain noHelp noOption plain, if_neg option, if_pos given]
  | case8 file first argument rest noHelp noOption plain option given ih =>
      simp only [parseCompile_of_plain noHelp noOption plain, if_neg option, if_neg given]
      exact ih second

theorem parseCompile_eq_error_iff {first second : Option Dialect} {arguments : List String}
    {failure : Failure} :
    parseCompile file first arguments = .error failure ↔
      parseCompile file second arguments = .error failure := by
  rw [← refusal?_eq_some_iff, ← refusal?_eq_some_iff, refusal?_parseCompile file first second]

/-! ## Values -/

theorem count_dropRepeated_le (c : Char) (mark text : List Char) :
    (dropRepeated mark text).count c ≤ text.count c := by
  fun_induction dropRepeated mark text with
  | case1 text _ ih => exact ih.trans ((List.drop_sublist mark.length text).count_le c)
  | case2 text _ => exact le_rfl

theorem unassigned_of_not_prefix (plain : ¬dialectAssignment <+: value.toList) :
    unassigned value = value := by
  rw [unassigned, dropRepeated, if_neg, String.ofList_toList]
  rintro ⟨-, first⟩
  exact plain (List.isPrefixOf_iff_prefix.mp first)

/-- Of a value that begins with the option at least one equals sign is stripped. -/
theorem count_unassigned_lt (repeated : dialectAssignment <+: value.toList) :
    (unassigned value).toList.count '=' < value.toList.count '=' := by
  obtain ⟨behind, parts⟩ := repeated
  have sign : dialectAssignment.count '=' = 1 := by decide
  have fewer := count_dropRepeated_le '=' dialectAssignment behind
  rw [unassigned, String.toList_ofList, ← parts, dropRepeated_append (by decide),
    List.count_append]
  omega

theorem dialectOf_eq_error (sign : '=' ∈ value.toList) :
    dialectOf value = .error [.refused (.unknownDialect (Text.plainKeyword value))] := by
  cases parsed : Dialect.parse value with
  | ok dialect => exact absurd sign (Dialect.not_mem_of_parse parsed)
  | error error =>
      rw [dialectOf, parsed, Dialect.eq_of_parse_eq_error parsed]
      rfl

/-- The stripped value has fewer equals signs, so it is not refused under the same name. -/
theorem dialectOf_unassigned_ne (repeated : dialectAssignment <+: value.toList) :
    dialectOf (unassigned value) ≠
      .error [.refused (.unknownDialect (Text.plainKeyword value))] := by
  intro refused
  cases parsed : Dialect.parse (unassigned value) with
  | ok dialect =>
      rw [dialectOf, parsed] at refused
      cases refused
  | error error =>
      rw [dialectOf, parsed, Dialect.eq_of_parse_eq_error parsed] at refused
      have same : Text.plainKeyword (unassigned value) = Text.plainKeyword value := by
        simpa [Except.mapError] using refused
      have notLetter : '='.isAlpha = false := by decide
      have notSpace : Text.isWhiteSpace '=' = false := by decide
      have counts := congrArg (fun keyword => keyword.toList.count '=') same
      simp only [Text.count_plainKeyword notLetter notSpace] at counts
      exact absurd counts (count_unassigned_lt repeated).ne

theorem parseCompile_assignment_eq_option_iff (repeated : dialectAssignment <+: value.toList) :
    parseCompile file dialect (assignment value :: rest) =
        parseCompile file dialect (dialectOption :: value :: rest) ↔
      (∃ dialect, Dialect.parse (unassigned value) = .ok dialect) ∧
        parseCompile file dialect rest =
          .error [.refused (.unknownDialect (Text.plainKeyword value))] := by
  have sign : '=' ∈ value.toList := repeated.subset (by decide)
  have differs := dialectOf_unassigned_ne repeated
  rw [parseCompile_assignment, parseCompile_option, dialectOf_eq_error sign]
  unfold dialectOf at differs ⊢
  cases parsed : Dialect.parse (unassigned value) with
  | error error =>
      rw [parsed] at differs
      simp only [reduceCtorEq, exists_false, false_and, iff_false]
      exact fun same => differs (congrArg Except.error (Except.error.inj same))
  | ok stripped =>
      simp only [Except.ok.injEq, exists_eq', true_and]
      exact parseCompile_eq_error_iff

/--
The two spellings of the option read the same, except in front of a value that
begins with the option and an equals sign.  There they read the same only if the
arguments in front of the option have already decided, or if the stripped value
is a dialect and the arguments behind it are refused for the whole value.
-/
theorem parse_assignment_eq_parse_option_iff (before rest : List String) (value : String)
    (complete : awaitsValue before = false) :
    parse ("compile" :: before ++ assignment value :: rest) =
        parse ("compile" :: before ++ dialectOption :: value :: rest) ↔
      ¬dialectAssignment <+: value.toList ∨
        (∀ behind, parse ("compile" :: before ++ behind) = parse ("compile" :: before)) ∨
        (∃ dialect, Dialect.parse (unassigned value) = .ok dialect) ∧
          parse ("compile" :: before ++ rest) =
            .error [.refused (.unknownDialect (Text.plainKeyword value))] := by
  simp only [List.cons_append, parse_compile]
  obtain ⟨result, ends⟩ | ⟨file, dialect, goesOn⟩ := parseCompile_append none none complete
  · have decided : parseCompile none none before = result := by simpa using ends []
    simp only [ends, decided, implies_true, true_or, or_true]
  · simp only [goesOn]
    by_cases repeated : dialectAssignment <+: value.toList
    · have undecided :
          ¬∀ behind, parseCompile file dialect behind = parseCompile none none before := by
        intro decided
        have asked := (decided ["-h"]).trans (decided []).symm
        cases asked
      rw [parseCompile_assignment_eq_option_iff repeated]
      simp only [repeated, undecided, not_true_eq_false, false_or]
    · simp only [parseCompile_assignment, parseCompile_option, unassigned_of_not_prefix repeated,
        repeated, not_false_eq_true, true_or]

/-- A value that begins with the option in upper case, which is not stripped. -/
theorem parse_assignment_eq_parse_option_iff_upperCase :
    awaitsValue ["people.toml", "--dialect", "--dialect"] = false ∧
      ¬dialectAssignment <+: "--DIALECT=pg".toList ∧
      parse ["compile", "people.toml", "--dialect", "--dialect", "--dialect=--DIALECT=pg", "-h"] =
        parse ["compile", "people.toml", "--dialect", "--dialect", "--dialect", "--DIALECT=pg",
          "-h"] := by
  have complete : awaitsValue ["people.toml", "--dialect", "--dialect"] = false := by decide
  have plain : ¬dialectAssignment <+: "--DIALECT=pg".toList := by decide
  refine ⟨complete, plain, ?_⟩
  exact (parse_assignment_eq_parse_option_iff ["people.toml", "--dialect", "--dialect"] ["-h"]
    "--DIALECT=pg" complete).mpr (.inl plain)

/-- As one argument the repeated option names the dialect `pg`, and as two it is refused. -/
theorem not_parse_assignment_eq_parse_option_repeatedOption :
    ¬∀ (before rest : List String) (value : String), awaitsValue before = false →
      parse ("compile" :: before ++ assignment value :: rest) =
        parse ("compile" :: before ++ dialectOption :: value :: rest) := by
  intro agree
  have same := agree [] [] "--dialect=pg" (by decide)
  have repeated : dialectAssignment <+: "--dialect=pg".toList := by decide
  rw [List.cons_append, List.cons_append, parse_compile, parse_compile, List.nil_append,
    List.nil_append, parseCompile_assignment_eq_option_iff repeated] at same
  cases same.2

end CommandLine

end SqlCompiler
