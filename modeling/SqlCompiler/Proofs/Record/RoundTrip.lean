import SqlCompiler.Proofs.Record.Members
import SqlCompiler.Record.Field
import SqlCompiler.Record.Setting

/-!
# Records are read as they were written

Records are written by one table of names and read by another, and the reader
has defaults for what is missing.  Whatever is written is read back whole, with
the declared type that the equality of fields does not see.  This holds of the
documents and of their texts.
-/

namespace SqlCompiler

/-! ## Keywords and functions -/

theorem SqlType.decode?_toJson (type : SqlType) : decode? .json type.toJson = some type := by
  cases type <;> rfl

theorem SortOrder.decode?_toJson (order : SortOrder) : decode? order.toJson = some order := by
  cases order <;> rfl

theorem KeyPolicy.decode?_toJson (policy : KeyPolicy) : decode? policy.toJson = some policy := by
  simp only [decode?, toJson, Record.parsed?, Record.text?, Option.bind_eq_bind,
    Option.bind_some, parse_name, Except.toOption]

namespace ColumnFunction

/-- The number of characters that a function takes is a word. -/
def isStandard : ColumnFunction → Prop
  | .left count | .right count => count < Word.unsignedLimit
  | _ => True

theorem decode?_toJson {function : ColumnFunction} (standard : function.isStandard) :
    decode? function.toJson = some function := by
  cases function with
  | left count =>
      have read : decode? (left count).toJson =
          ((Record.count? (Record.ofCount count)).map left <|>
            decodeConstant? (left count).toJson) := rfl
      rw [read, Record.count?_ofCount standard]
      rfl
  | right count =>
      have read : decode? (right count).toJson =
          ((Record.count? (Record.ofCount count)).map right <|>
            decodeConstant? (right count).toJson) := rfl
      rw [read, Record.count?_ofCount standard]
      rfl
  | custom template => rfl
  | _ => rfl

theorem isReadable_toJson {function : ColumnFunction}
    (standard : function.isStandard) : function.toJson.isReadable 0 = true := by
  cases function with
  | left count | right count =>
      have readable := Record.isReadable_ofCount standard 1
      simp only [toJson, Json.isReadable, Json.membersReadable, readable]
      rfl
  | _ => rfl

end ColumnFunction

/-! ## Records -/

namespace Field

theorem decode?_toJson {field : Field} (named : Text.isBlank field.name = false) :
    decode? field.toJson = some field := by
  have made : (ofName field.name).toOption = some { name := field.name } := by
    rw [(ofName_eq_ok_iff _ _).mpr ⟨named, rfl⟩]
    rfl
  obtain ⟨name, type⟩ := field
  cases type with
  | none =>
      have read : decode? (Field.toJson { name }) =
          (ofName name).toOption.bind fun field => some { field with type := none } := rfl
      rw [read, made]
      rfl
  | some type =>
      have read : decode? (Field.toJson { name, type }) =
          (SqlType.decode? .json type.toJson).bind fun type =>
            (ofName name).toOption.bind fun field => some { field with type } := by
        cases type <;> rfl
      rw [read, SqlType.decode?_toJson, made]
      rfl

theorem isReadable_toJson (field : Field) : field.toJson.isReadable 0 = true := by
  obtain ⟨name, type⟩ := field
  cases type <;> rfl

end Field

namespace SortKey

theorem decode?_of_holds {key : SortKey} {record : Json} (holds : shape.Holds key.toJson record) :
    decode? record = some key := by
  have name : Record.required? record "name" Record.text? = some key.name :=
    holds.required? rfl rfl rfl
  have order : Record.withDefault? record "order" .ascending SortOrder.decode? = some key.order :=
    holds.withDefault? rfl rfl key.order.decode?_toJson
  simp only [decode?, holds.accepted, name, order, Option.bind_eq_bind, Option.bind_some]

theorem isFilledBy_toJson (key : SortKey) : shape.IsFilledBy key.toJson :=
  ⟨_, rfl, rfl⟩

theorem read?_toJson (key : SortKey) : read? key.toJson.text = decode? key.toJson := by
  have readable : key.toJson.isReadable 0 = true := rfl
  rw [read?, key.isFilledBy_toJson.readExcerpt?_text readable, Option.bind_some]

end SortKey

namespace Options

theorem decode?_of_holds {options : Options} {record : Json}
    (small : options.tracedLength < Word.unsignedLimit)
    (holds : shape.Holds options.toJson record) :
    decode? record = some options := by
  have keyPolicy : Record.withDefault? record "key_column_return_behavior"
      ({} : Options).keyPolicy KeyPolicy.decode? = some options.keyPolicy :=
    holds.withDefault? rfl rfl options.keyPolicy.decode?_toJson
  have tracedLength : Record.withDefault? record "max_traced_sql_length"
      ({} : Options).tracedLength Record.count? = some options.tracedLength :=
    holds.withDefault? rfl rfl (Record.count?_ofCount small)
  simp only [decode?, holds.accepted, keyPolicy, tracedLength, Option.bind_eq_bind,
    Option.bind_some]

theorem isFilledBy_toJson (options : Options) : shape.IsFilledBy options.toJson :=
  ⟨_, rfl, rfl⟩

theorem isReadable_toJson {options : Options}
    (small : options.tracedLength < Word.unsignedLimit) :
    options.toJson.isReadable 0 = true := by
  have count := Record.isReadable_ofCount small 1
  simp only [toJson, KeyPolicy.toJson, Json.isReadable, Json.membersReadable, count]
  rfl

end Options

namespace Column

theorem decode?_of_holds {column : Column} {record : Json}
    (small : ∀ size, column.size = some size → size < Word.unsignedLimit)
    (holds : shape.Holds column.toJson record) :
    decode? .json record = some column := by
  have name : Record.required? record "name" Record.text? = some column.name :=
    holds.required? rfl rfl rfl
  have isPrimary : Record.withDefault? record "is_primary" false Record.bool? =
      some column.isPrimary := holds.withDefault? rfl rfl rfl
  have isIdentity : Record.withDefault? record "is_identity" false Record.bool? =
      some column.isIdentity := holds.withDefault? rfl rfl rfl
  have isNullable : Record.withDefault? record "is_nullable" true Record.bool? =
      some column.isNullable := holds.withDefault? rfl rfl rfl
  have type : Record.optional? record "db_type" (SqlType.decode? .json) = some column.type :=
    holds.optional? rfl (fun _ => rfl) (fun type _ => type.decode?_toJson)
  have size : Record.optional? record "size" Record.count? = some column.size :=
    holds.optional? rfl (fun _ => rfl) (fun size given => Record.count?_ofCount (small size given))
  have precision : Record.optional? record "precision" Record.byte? = some column.precision :=
    holds.optional? rfl (fun _ => rfl) (fun value _ => Record.byte?_ofCount value)
  have scale : Record.optional? record "scale" Record.byte? = some column.scale :=
    holds.optional? rfl (fun _ => rfl) (fun value _ => Record.byte?_ofCount value)
  have hasDefault : Record.withDefault? record "has_default_value" false Record.bool? =
      some column.hasDefault := holds.withDefault? rfl rfl rfl
  simp only [decode?, holds.accepted, name, isPrimary, isIdentity, isNullable, type, size,
    precision, scale, hasDefault, Option.bind_eq_bind, Option.bind_some]

theorem isFilledBy_toJson (column : Column) : shape.IsFilledBy column.toJson :=
  ⟨_, rfl, rfl⟩

theorem isReadable_toJson {column : Column}
    (small : ∀ size, column.size = some size → size < Word.unsignedLimit) :
    column.toJson.isReadable 0 = true := by
  have type : (Record.ofNullable SqlType.toJson column.type).isReadable 1 = true :=
    Record.isReadable_ofNullable fun _ _ => rfl
  have size : (Record.ofNullable Record.ofCount column.size).isReadable 1 = true :=
    Record.isReadable_ofNullable fun size given => Record.isReadable_ofCount (small size given) 1
  have byte : ∀ value : Option UInt8,
      (Record.ofNullable (fun value => Record.ofCount value.toNat) value).isReadable 1 = true :=
    fun value => Record.isReadable_ofNullable fun content _ =>
      Record.isReadable_ofCount (Nat.lt_trans content.toNat_lt (by decide)) 1
  simp only [toJson, Json.isReadable, Json.membersReadable, type, size, byte]
  rfl

theorem read?_toJson {column : Column}
    (small : ∀ size, column.size = some size → size < Word.unsignedLimit) :
    read? column.toJson.text = decode? .json column.toJson := by
  rw [read?, column.isFilledBy_toJson.readExcerpt?_text (isReadable_toJson small),
    Option.bind_some]

end Column

namespace Setting

theorem decode?_of_holds {setting : Setting} {record : Json}
    (holds : shape.Holds setting.toJson record) :
    decode? record = some setting := by
  have openingQuote : Record.required? record "opening_quote" Record.text? =
      some setting.openingQuote := holds.required? rfl rfl rfl
  have closingQuote : Record.required? record "closing_quote" Record.text? =
      some setting.closingQuote := holds.required? rfl rfl rfl
  have parameterMark : Record.required? record "parameter_prefix" Record.text? =
      some setting.parameterMark := holds.required? rfl rfl rfl
  have nameSeparator : Record.required? record "schema_separator" Record.text? =
      some setting.nameSeparator := holds.required? rfl rfl rfl
  have allowsHints : Record.required? record "are_table_hints_supported" Record.bool? =
      some setting.allowsHints := holds.required? rfl rfl rfl
  have allowsSeveralStatements :
      Record.required? record "is_multi_statement_executable" Record.bool? =
        some setting.allowsSeveralStatements := holds.required? rfl rfl rfl
  have averageType : Record.optional? record "averageable_type" Record.text? =
      some setting.averageType := holds.optional? rfl (fun _ => rfl) (fun _ _ => rfl)
  simp only [decode?, holds.accepted, openingQuote, closingQuote, parameterMark, nameSeparator,
    allowsHints, allowsSeveralStatements, averageType, Option.bind_eq_bind, Option.bind_some]

theorem isFilledBy_toJson (setting : Setting) : shape.IsFilledBy setting.toJson :=
  ⟨_, rfl, rfl⟩

theorem isReadable_toJson (setting : Setting) : setting.toJson.isReadable 0 = true := by
  cases type : setting.averageType <;>
    simp [toJson, type, Record.ofNullable, Json.isReadable, Json.membersReadable, Json.depthLimit]

theorem read?_toJson (setting : Setting) :
    read? setting.toJson.text = decode? setting.toJson := by
  rw [read?, setting.isFilledBy_toJson.readExcerpt?_text setting.isReadable_toJson,
    Option.bind_some]

end Setting

/-! ## Round trips -/

/--
What is written is read back whole, from its document and from its text: the
fields that have a name, with the type that their equality does not see, and
all sort keys, columns, settings, options and functions whose sizes and counts
are words.  A field without a type has no member for it, and the members of a
column or a setting that are null may as well be left out.
-/
theorem Record.readers_undo_writers :
    (∀ field : Field, Text.isBlank field.name = false →
      Field.decode? field.toJson = some field ∧
        (Json.read? field.toJson.text).bind Field.decode? = some field ∧
        (field.toJson.member? "db_type" = none ↔ field.type = none)) ∧
    (∀ key : SortKey,
      SortKey.decode? key.toJson = some key ∧ SortKey.read? key.toJson.text = some key) ∧
    (∀ column : Column, (∀ size, column.size = some size → size < Word.unsignedLimit) →
      Column.decode? .json column.toJson = some column ∧
        Column.read? column.toJson.text = some column ∧
        ∀ kept, Column.decode? .json (column.toJson.withoutNulls kept) = some column) ∧
    (∀ setting : Setting,
      Setting.decode? setting.toJson = some setting ∧
        Setting.read? setting.toJson.text = some setting ∧
        ∀ kept, Setting.decode? (setting.toJson.withoutNulls kept) = some setting) ∧
    (∀ options : Options, options.tracedLength < Word.unsignedLimit →
      Options.decode? options.toJson = some options ∧
        (Json.read? options.toJson.text).bind Options.decode? = some options) ∧
    ∀ function : ColumnFunction, function.isStandard →
      ColumnFunction.decode? function.toJson = some function ∧
        (Json.read? function.toJson.text).bind ColumnFunction.decode? = some function := by
  refine ⟨fun field named => ?_, fun key => ?_, fun column small => ?_, fun setting => ?_,
    fun options small => ?_, fun function standard => ?_⟩
  · have decoded := field.decode?_toJson named
    refine ⟨decoded, (Json.read?_text_bind field.isReadable_toJson _).trans decoded, ?_⟩
    obtain ⟨name, type⟩ := field
    cases type <;> simp [Field.toJson, Json.member?]
  · have decoded := SortKey.decode?_of_holds (key.isFilledBy_toJson.holds_self (by decide))
    exact ⟨decoded, key.read?_toJson.trans decoded⟩
  · have filled := column.isFilledBy_toJson
    have decoded := Column.decode?_of_holds small (filled.holds_self (by decide))
    exact ⟨decoded, (Column.read?_toJson small).trans decoded, fun kept =>
      Column.decode?_of_holds small (filled.holds_withoutNulls (by decide) kept)⟩
  · have filled := setting.isFilledBy_toJson
    have decoded := Setting.decode?_of_holds (filled.holds_self (by decide))
    exact ⟨decoded, setting.read?_toJson.trans decoded, fun kept =>
      Setting.decode?_of_holds (filled.holds_withoutNulls (by decide) kept)⟩
  · have filled := options.isFilledBy_toJson
    have decoded := Options.decode?_of_holds small (filled.holds_self (by decide))
    exact ⟨decoded,
      (Json.read?_text_bind (Options.isReadable_toJson small) _).trans decoded⟩
  · have decoded := function.decode?_toJson standard
    exact ⟨decoded,
      (Json.read?_text_bind (ColumnFunction.isReadable_toJson standard) _).trans decoded⟩

/-- A name that is quoted and padded, a name that is escaped, and the greatest words. -/
theorem Record.readers_undo_writers_extremes :
    (Json.read? (Field.toJson ⟨" [a.b]", some .dateTimeOffset⟩).text).bind Field.decode? =
        some ⟨" [a.b]", some .dateTimeOffset⟩ ∧
      Column.read? (Column.toJson
          ⟨"\"\\\n", false, true, false, none, some 18446744073709551615, none, some 255,
            true⟩).text =
        some ⟨"\"\\\n", false, true, false, none, some 18446744073709551615, none, some 255,
          true⟩ ∧
      Options.decode? (Options.toJson ⟨.primaryElseIdentity, 18446744073709551615⟩) =
        some ⟨.primaryElseIdentity, 18446744073709551615⟩ ∧
      ColumnFunction.decode? (ColumnFunction.right 18446744073709551615).toJson =
        some (.right 18446744073709551615) := by
  have word : 18446744073709551615 < Word.unsignedLimit := by decide
  refine ⟨(readers_undo_writers.1 _ (by decide)).2.1, ?_,
    (readers_undo_writers.2.2.2.2.1 _ word).1,
    (readers_undo_writers.2.2.2.2.2 (.right 18446744073709551615) word).1⟩
  refine (readers_undo_writers.2.2.1 _ fun size given => ?_).2.1
  cases given
  exact word

end SqlCompiler
