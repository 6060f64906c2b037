import SqlCompiler.Configuration
import SqlCompiler.Json.Excerpt
import SqlCompiler.Record.Keyword
import SqlCompiler.Record.Layout

/-!
# Settings and options in documents

A setting is written with all its members, and only the type for averages may
be missing.  In overrides and options every member may be missing, but a name
that is not listed is refused.  A setting that is read from a text ignores such
members; overrides and options are also read from TOML.
-/

namespace SqlCompiler

namespace Setting

def memberNames : List String :=
  ["opening_quote", "closing_quote", "parameter_prefix", "schema_separator",
    "are_table_hints_supported", "is_multi_statement_executable", "averageable_type"]

def shape : Record.Shape where
  names := memberNames
  required := 7

def toJson (setting : Setting) : Json :=
  .object
    [("opening_quote", .string setting.openingQuote),
      ("closing_quote", .string setting.closingQuote),
      ("parameter_prefix", .string setting.parameterMark),
      ("schema_separator", .string setting.nameSeparator),
      ("are_table_hints_supported", .bool setting.allowsHints),
      ("is_multi_statement_executable", .bool setting.allowsSeveralStatements),
      ("averageable_type", Record.ofNullable Json.string setting.averageType)]

def decode? (document : Json) : Option Setting := do
  let record ← shape.members? document
  let openingQuote ← Record.required? record "opening_quote" Record.text?
  let closingQuote ← Record.required? record "closing_quote" Record.text?
  let parameterMark ← Record.required? record "parameter_prefix" Record.text?
  let nameSeparator ← Record.required? record "schema_separator" Record.text?
  let allowsHints ← Record.required? record "are_table_hints_supported" Record.bool?
  let allowsSeveralStatements ←
    Record.required? record "is_multi_statement_executable" Record.bool?
  let averageType ← Record.optional? record "averageable_type" Record.text?
  some
    { openingQuote
      closingQuote
      parameterMark
      nameSeparator
      allowsHints
      allowsSeveralStatements
      averageType }

def read? (text : String) : Option Setting :=
  (Json.readExcerpt? shape.names text).bind decode?

namespace Overrides

def shape : Record.Shape where
  names := memberNames
  required := 7
  closed := true

def decode? (document : Json) : Option Overrides := do
  let record ← shape.members? document
  let openingQuote ← Record.optional? record "opening_quote" Record.text?
  let closingQuote ← Record.optional? record "closing_quote" Record.text?
  let parameterMark ← Record.optional? record "parameter_prefix" Record.text?
  let nameSeparator ← Record.optional? record "schema_separator" Record.text?
  let allowsHints ← Record.optional? record "are_table_hints_supported" Record.bool?
  let allowsSeveralStatements ←
    Record.optional? record "is_multi_statement_executable" Record.bool?
  let averageType ← Record.optional? record "averageable_type" Record.text?
  some
    { openingQuote
      closingQuote
      parameterMark
      nameSeparator
      allowsHints
      allowsSeveralStatements
      averageType }

def readToml? (text : String) : Option Overrides :=
  ((Record.Layout.flat shape).read? text).bind decode?

end Overrides

end Setting

namespace Options

def shape : Record.Shape where
  names := ["key_column_return_behavior", "max_traced_sql_length"]
  required := 0
  closed := true

def toJson (options : Options) : Json :=
  .object
    [("key_column_return_behavior", options.keyPolicy.toJson),
      ("max_traced_sql_length", Record.ofCount options.tracedLength)]

/-- Read options; a missing one keeps its value at the start. -/
def decode? (document : Json) : Option Options := do
  let record ← shape.members? document
  let initial : Options := {}
  let keyPolicy ←
    Record.withDefault? record "key_column_return_behavior" initial.keyPolicy KeyPolicy.decode?
  let tracedLength ←
    Record.withDefault? record "max_traced_sql_length" initial.tracedLength Record.count?
  some { keyPolicy, tracedLength }

def readToml? (text : String) : Option Options :=
  ((Record.Layout.flat shape).read? text).bind decode?

end Options

end SqlCompiler
