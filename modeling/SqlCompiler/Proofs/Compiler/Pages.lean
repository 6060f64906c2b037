import Mathlib.Data.List.DropRight
import Mathlib.Order.Interval.Set.Basic
import SqlCompiler.Proofs.Compiler.Plan
import SqlCompiler.Proofs.Text.Numbers

/-!
# The row positions of a page

A page is spelled by its first and its last position on SQL Server, by its
length and its offset on PostgreSQL and SQLite, and on MySQL by its offset and
its length.  The two numbers are the last ones of the text, apart from those in
the order that SQL Server has behind them, so they can be read back.  They mean
the same positions in all dialects, no word wraps around on the way, and pages
of one length follow each other without overlap and without a gap.
-/

namespace SqlCompiler

namespace Request

/-- The positions of an accepted page are exact. -/
theorem resolvePage_eq_ok_iff {page rows : UInt64} {positions : Page} :
    resolvePage page rows = .ok positions ↔
      rows ≠ 0 ∧ positions.offset.toNat = page.toNat * rows.toNat ∧
        positions.last.toNat = positions.offset.toNat + rows.toNat := by
  obtain ⟨offset, last⟩ := positions
  rw [← Word.product?_eq_some_iff, ← Word.sum?_eq_some_iff]
  constructor
  · intro accepted
    unfold resolvePage at accepted
    split at accepted
    next => cases accepted
    next nonzero =>
      dsimp only at accepted
      split at accepted
      next start stop product sum =>
        cases accepted
        rw [product] at sum
        exact ⟨nonzero, product, sum⟩
      next => cases accepted
  · rintro ⟨nonzero, product, sum⟩
    simp [resolvePage, nonzero, product, sum]

theorem one_le_rows_iff {rows : UInt64} : 1 ≤ rows.toNat ↔ rows ≠ 0 := by
  rw [ne_eq, ← UInt64.toNat_inj, UInt64.toNat_zero]
  omega

/-- A page is accepted exactly if its last position is a word. -/
theorem exists_resolvePage_eq_ok_iff {page rows : UInt64} :
    (∃ positions, resolvePage page rows = .ok positions) ↔
      1 ≤ rows.toNat ∧ (page.toNat + 1) * rows.toNat < Word.unsignedLimit := by
  simp only [resolvePage_eq_ok_iff, one_le_rows_iff, Nat.succ_mul]
  constructor
  · rintro ⟨positions, nonzero, offset, last⟩
    refine ⟨nonzero, ?_⟩
    rw [← offset, ← last]
    exact positions.last.toNat_lt
  · rintro ⟨nonzero, fits⟩
    have offsetFits : page.toNat * rows.toNat < Word.unsignedLimit := by omega
    refine ⟨⟨.ofNat (page.toNat * rows.toNat), .ofNat (page.toNat * rows.toNat + rows.toNat)⟩,
      nonzero, ?_, ?_⟩
    · exact UInt64.toNat_ofNat_of_lt' offsetFits
    · rw [UInt64.toNat_ofNat_of_lt' offsetFits]
      exact UInt64.toNat_ofNat_of_lt' fits

/-- The first position of an accepted page is a word as well. -/
theorem toNat_offset_add_one {page rows : UInt64} {positions : Page}
    (accepted : resolvePage page rows = .ok positions) :
    (positions.offset + 1).toNat = positions.offset.toNat + 1 := by
  obtain ⟨nonzero, -, last⟩ := resolvePage_eq_ok_iff.mp accepted
  have positive := one_le_rows_iff.mpr nonzero
  have fits := positions.last.toNat_lt
  rw [UInt64.toNat_add, UInt64.toNat_one]
  omega

end Request

namespace Dialect

/-- The row positions that the two numbers of a window mean. -/
def selected (dialect : Dialect) (first second : Nat) : Set Nat :=
  match dialect with
  | .sqlServer => Set.Icc first second
  | .postgreSql | .sqlite => Set.Ioc second (second + first)
  | .mySql => Set.Ioc first (first + second)

/-- The word of a page that says which row positions it has. -/
def windowWord (dialect : Dialect) (setting : Setting) (rows : UInt64)
    (positions : Request.Page) : String :=
  match dialect with
  | .sqlServer =>
      "WHERE (" ++ setting.quote "RowNumber" ++ " BETWEEN " ++
        toString (positions.offset + 1) ++ " AND " ++ toString positions.last ++ ")"
  | .postgreSql | .sqlite =>
      "LIMIT " ++ toString rows.toNat ++ " OFFSET " ++ toString positions.offset.toNat
  | .mySql => "LIMIT " ++ toString positions.offset.toNat ++ ", " ++ toString rows.toNat

/-- The words of a page between its window and the terminator. -/
def behindWindow (dialect : Dialect) (setting : Setting) (request : Request) : List String :=
  match dialect with
  | .sqlServer => Clause.order setting request.order
  | _ => []

theorem windowWord_ne_empty (dialect : Dialect) (setting : Setting) (rows : UInt64)
    (positions : Request.Page) : dialect.windowWord setting rows positions ≠ "" := by
  cases dialect <;> simp [windowWord]

theorem toList_toString_word (word : UInt64) :
    (toString word).toList = Nat.toDigits 10 word.toNat := by
  have same : toString word = toString word.toNat := rfl
  rw [same, Nat.toString_eq_ofList_toDigits, String.toList_ofList]

/-- The two numbers of a window stand in the text as they were computed. -/
theorem lastNumbers?_windowWord (dialect : Dialect) (setting : Setting) (rows : UInt64)
    (positions : Request.Page) (front : List Char) :
    Text.lastNumbers?
        (front ++ ((dialect.windowWord setting rows positions).toList ++ [' '])) =
      match dialect with
      | .sqlServer => some ((positions.offset + 1).toNat, positions.last.toNat)
      | .postgreSql | .sqlite => some (rows.toNat, positions.offset.toNat)
      | .mySql => some (positions.offset.toNat, rows.toNat) := by
  cases dialect with
  | sqlServer =>
      have read := Text.lastNumbers?_append
        (front ++ ("WHERE (" ++ setting.quote "RowNumber" ++ " BETWEEN").toList)
        (positions.offset + 1).toNat "AND".toList positions.last.toNat [' ']
        (rfl : ' '.isDigit = false) (rfl : ')'.isDigit = false) (by decide +kernel) rfl
      simpa [windowWord, toList_toString_word] using read
  | postgreSql | sqlite =>
      have read := Text.lastNumbers?_append (front ++ "LIMIT".toList)
        rows.toNat "OFFSET".toList positions.offset.toNat []
        (rfl : ' '.isDigit = false) (rfl : ' '.isDigit = false) (by decide +kernel) rfl
      simpa [windowWord, Nat.toString_eq_ofList_toDigits] using read
  | mySql =>
      have read := Text.lastNumbers?_append (front ++ "LIMIT".toList)
        positions.offset.toNat [] rows.toNat []
        (rfl : ','.isDigit = false) (rfl : ' '.isDigit = false) rfl rfl
      simpa [windowWord, Nat.toString_eq_ofList_toDigits] using read

/-- What a text has behind the window of a page: the order on SQL Server and the terminator. -/
def rear (dialect : Dialect) (setting : Setting) (request : Request) : List Char :=
  StatementText.spaced (dialect.behindWindow setting request) ++ [';']

/-- The row positions that a text selects, by the last two numbers in front of its rear. -/
def readWindow? (dialect : Dialect) (setting : Setting) (request : Request) (text : String) :
    Option (Set Nat) :=
  (Text.lastNumbers? (text.toList.rdrop (dialect.rear setting request).length)).map
    fun (first, second) => dialect.selected first second

theorem words_pageStatement (dialect : Dialect) (setting : Setting) (request : Request)
    (rows : UInt64) (positions : Request.Page) :
    ∃ front, (Compiler.pageStatement dialect request rows positions).words setting =
      front ++ [dialect.windowWord setting rows positions] ++
        dialect.behindWindow setting request ++ [terminator] := by
  cases dialect with
  | sqlServer =>
      let columns := Clause.columnList setting request.fields
      refine ⟨["WITH", "CTE", "AS", "(", "SELECT", "ROW_NUMBER()", "OVER", "("] ++
        Clause.order setting request.order ++
        [")", "AS " ++ setting.quote "RowNumber" ++ ",", columns, "FROM"] ++
        request.target.words setting ++
        Clause.condition setting request.effectiveFilter 0 ++
        [")", "SELECT", columns, "FROM", "CTE"], ?_⟩
      simp [Compiler.pageStatement, Statement.words, Statement.body, Statement.selectPageWords,
        windowWord, behindWindow, columns]
  | postgreSql | sqlite | mySql =>
      refine ⟨["SELECT", Clause.columnList setting request.fields, "FROM"] ++
        request.target.words setting ++
        Clause.condition setting request.effectiveFilter 0 ++
        Clause.order setting request.order, ?_⟩
      simp [Compiler.pageStatement, Statement.words, Statement.body, Selection.words,
        RowWindow.words, Clause.limitOffset, Clause.offsetLimit, windowWord, behindWindow]

/-- The text of a page ends with its window and what stands behind the window. -/
theorem toList_page (dialect : Dialect) (setting : Setting) (request : Request) (rows : UInt64)
    (positions : Request.Page) :
    ∃ front, (StatementText.ofWords
        ((Compiler.pageStatement dialect request rows positions).words setting)).finished.toList =
      front ++ ((dialect.windowWord setting rows positions).toList ++ [' ']) ++
        dialect.rear setting request := by
  obtain ⟨front, words⟩ := words_pageStatement dialect setting request rows positions
  refine ⟨StatementText.spaced front, ?_⟩
  rw [words, StatementText.toList_finished_ofWords, StatementText.spaced_append,
    StatementText.spaced_append,
    StatementText.spaced_singleton (windowWord_ne_empty dialect setting rows positions),
    List.append_assoc _ _ [';'], rear]

/-- The window that is read from the text of a page has the positions of the page. -/
theorem readWindow?_page {dialect : Dialect} {setting : Setting} {request : Request}
    {page rows : UInt64} {positions : Request.Page} {text : String} {front : List Char}
    (accepted : Request.resolvePage page rows = .ok positions)
    (ends : text.toList =
      front ++ ((dialect.windowWord setting rows positions).toList ++ [' ']) ++
        dialect.rear setting request) :
    dialect.readWindow? setting request text =
      some (Set.Ioc (page.toNat * rows.toNat) ((page.toNat + 1) * rows.toNat)) := by
  have start := Request.toNat_offset_add_one accepted
  obtain ⟨-, offset, last⟩ := Request.resolvePage_eq_ok_iff.mp accepted
  rw [readWindow?, ends, List.rdrop_append_length, lastNumbers?_windowWord, Nat.succ_mul,
    ← offset, ← last]
  cases dialect with
  | sqlServer =>
      -- The first position is one more than the offset, so both bounds belong to the page.
      have same : Set.Icc (positions.offset.toNat + 1) positions.last.toNat =
          Set.Ioc positions.offset.toNat positions.last.toNat := by
        ext position
        simp only [Set.mem_Icc, Set.mem_Ioc, Nat.succ_le_iff]
      simp only [Option.map_some, selected, start, same]
  | postgreSql | sqlite => simp only [Option.map_some, selected, last]
  | mySql => simp only [Option.map_some, selected, last]

end Dialect

/-- The request passes every check of a page but that of its positions. -/
structure Request.PassesPageChecks (request : Request) (setting : Setting) : Prop where
  common : request.checkCommon setting = .ok ()
  fields : request.checkFields = .ok ()
  order : request.checkOrder = .ok ()

namespace Compiler

variable {compiler : Compiler} {configuration : Configuration} {request : Request}
  {dialect : Dialect} {page other rows : UInt64}

theorem text_batchQuery_eq_ok_iff (chosen : compiler.dialect = some dialect)
    (passes : request.PassesPageChecks compiler.setting) {text : String} :
    compiler.text configuration (.batchQuery page rows) request = .ok text ↔
      ∃ positions, Request.resolvePage page rows = .ok positions ∧
        text = (StatementText.ofWords
          ((pageStatement dialect request rows positions).words compiler.setting)).finished := by
  rw [text_eq_ok_iff]
  constructor
  · rintro ⟨statements, compiled, rfl⟩
    obtain ⟨known, positions, same, planned, rfl⟩ := compile_batchQuery_eq_ok_iff.mp compiled
    obtain rfl : dialect = known := Option.some.inj (chosen.symm.trans same)
    obtain ⟨-, -, -, resolved⟩ := planPage_eq_ok_iff.mp planned
    exact ⟨positions, resolved, by rw [written, Statement.allWords_singleton]⟩
  · rintro ⟨positions, resolved, rfl⟩
    have planned := planPage_eq_ok_iff.mpr
      ⟨passes.common, passes.fields, passes.order, resolved⟩
    refine ⟨_, compile_batchQuery_eq_ok_iff.mpr ⟨dialect, positions, chosen, planned, rfl⟩, ?_⟩
    rw [written, Statement.allWords_singleton]

theorem exists_text_batchQuery_iff (configuration : Configuration)
    (chosen : compiler.dialect = some dialect)
    (passes : request.PassesPageChecks compiler.setting) :
    (∃ text, compiler.text configuration (.batchQuery page rows) request = .ok text) ↔
      1 ≤ rows.toNat ∧ (page.toNat + 1) * rows.toNat < Word.unsignedLimit := by
  rw [← Request.exists_resolvePage_eq_ok_iff]
  simp only [text_batchQuery_eq_ok_iff chosen passes]
  constructor
  · rintro ⟨text, positions, resolved, -⟩
    exact ⟨positions, resolved⟩
  · rintro ⟨positions, resolved⟩
    exact ⟨_, positions, resolved, rfl⟩

/--
The text of a page ends with the window of its positions, and what is read
from the two numbers in it are the positions of the page.
-/
theorem window_of_text (chosen : compiler.dialect = some dialect)
    (passes : request.PassesPageChecks compiler.setting) {text : String}
    (accepted : compiler.text configuration (.batchQuery page rows) request = .ok text) :
    (∃ front positions, compiler.planPage request page rows = .ok positions ∧
        text.toList =
          front ++ ((dialect.windowWord compiler.setting rows positions).toList ++ [' ']) ++
            dialect.rear compiler.setting request) ∧
      dialect.readWindow? compiler.setting request text =
        some (Set.Ioc (page.toNat * rows.toNat) ((page.toNat + 1) * rows.toNat)) := by
  obtain ⟨positions, resolved, spelled⟩ :=
    (text_batchQuery_eq_ok_iff chosen passes).mp accepted
  obtain ⟨front, ends⟩ := dialect.toList_page compiler.setting request rows positions
  rw [← spelled] at ends
  have planned := planPage_eq_ok_iff.mpr ⟨passes.common, passes.fields, passes.order, resolved⟩
  exact ⟨⟨front, positions, planned, ends⟩, Dialect.readWindow?_page resolved ends⟩

/-- A page is accepted, and a set of row positions is read from its text. -/
def SelectsPage (compiler : Compiler) (configuration : Configuration) (request : Request)
    (dialect : Dialect) (page rows : UInt64) (window : Set Nat) : Prop :=
  ∃ text, compiler.text configuration (.batchQuery page rows) request = .ok text ∧
    dialect.readWindow? compiler.setting request text = some window

theorem selectsPage_iff (chosen : compiler.dialect = some dialect)
    (passes : request.PassesPageChecks compiler.setting) {window : Set Nat} :
    compiler.SelectsPage configuration request dialect page rows window ↔
      (1 ≤ rows.toNat ∧ (page.toNat + 1) * rows.toNat < Word.unsignedLimit) ∧
        window = Set.Ioc (page.toNat * rows.toNat) ((page.toNat + 1) * rows.toNat) := by
  rw [← exists_text_batchQuery_iff configuration chosen passes]
  constructor
  · rintro ⟨text, accepted, read⟩
    have window_eq := (window_of_text chosen passes accepted).2
    exact ⟨⟨text, accepted⟩, Option.some.inj (read.symm.trans window_eq)⟩
  · rintro ⟨⟨text, accepted⟩, rfl⟩
    exact ⟨text, accepted, (window_of_text chosen passes accepted).2⟩

/-- Two pages have no row position in common. -/
theorem not_mem_of_selectsPage (chosen : compiler.dialect = some dialect)
    (passes : request.PassesPageChecks compiler.setting) {window otherWindow : Set Nat}
    (selects : compiler.SelectsPage configuration request dialect page rows window)
    (otherSelects : compiler.SelectsPage configuration request dialect other rows otherWindow)
    (different : page ≠ other) : ∀ position ∈ window, position ∉ otherWindow := by
  obtain ⟨-, rfl⟩ := (selectsPage_iff chosen passes).mp selects
  obtain ⟨-, rfl⟩ := (selectsPage_iff chosen passes).mp otherSelects
  intro position onPage onOther
  obtain before | behind := Nat.lt_or_gt_of_ne (mt UInt64.toNat_inj.mp different)
  · have apart := Nat.mul_le_mul_right rows.toNat before
    exact absurd onOther.1 (Nat.not_lt.mpr (onPage.2.trans apart))
  · have apart := Nat.mul_le_mul_right rows.toNat behind
    exact absurd onPage.1 (Nat.not_lt.mpr (onOther.2.trans apart))

/-- Every position up to one on a page is on a page itself. -/
theorem exists_selectsPage (chosen : compiler.dialect = some dialect)
    (passes : request.PassesPageChecks compiler.setting) {window : Set Nat}
    (selects : compiler.SelectsPage configuration request dialect page rows window)
    {position later : Nat} (positive : 1 ≤ position) (reached : later ∈ window)
    (upTo : position ≤ later) :
    ∃ earlier earlierWindow,
      compiler.SelectsPage configuration request dialect earlier rows earlierWindow ∧
        position ∈ earlierWindow := by
  obtain ⟨⟨rowsPositive, fits⟩, rfl⟩ := (selectsPage_iff chosen passes).mp selects
  have within : position - 1 < (page.toNat + 1) * rows.toNat := by
    have last := reached.2
    omega
  have earlier : (position - 1) / rows.toNat < page.toNat + 1 :=
    (Nat.div_lt_iff_lt_mul rowsPositive).mpr within
  have word : (UInt64.ofNat ((position - 1) / rows.toNat)).toNat =
      (position - 1) / rows.toNat := by
    have bound := page.toNat_lt
    exact UInt64.toNat_ofNat_of_lt' (show _ < UInt64.size by simp only [UInt64.size]; omega)
  refine ⟨.ofNat ((position - 1) / rows.toNat), _,
    (selectsPage_iff chosen passes).mpr ⟨⟨rowsPositive, ?_⟩, rfl⟩, ?_⟩
  · rw [word]
    exact (Nat.mul_le_mul_right rows.toNat earlier).trans_lt fits
  · rw [word, Set.mem_Ioc, Nat.succ_mul]
    have divided := Nat.div_add_mod' (position - 1) rows.toNat
    have remainder := Nat.mod_lt (position - 1) rowsPositive
    omega

/--
A page is accepted exactly if it has rows and its last position is a word; then
no position wraps around, the text selects the rows behind those of all pages
before it, and the pages cover the positions one after the other.
-/
theorem batchQuery_windows (chosen : compiler.dialect = some dialect)
    (passes : request.PassesPageChecks compiler.setting) (configuration : Configuration)
    (rows : UInt64) :
    (∀ page, (∃ text,
        compiler.text configuration (.batchQuery page rows) request = .ok text) ↔
      1 ≤ rows.toNat ∧ (page.toNat + 1) * rows.toNat < Word.unsignedLimit) ∧
    (∀ page positions, compiler.planPage request page rows = .ok positions →
      positions.offset.toNat = page.toNat * rows.toNat ∧
        positions.last.toNat = positions.offset.toNat + rows.toNat ∧
        (positions.offset + 1).toNat = positions.offset.toNat + 1) ∧
    (∀ page text, compiler.text configuration (.batchQuery page rows) request = .ok text →
      (∃ front positions, compiler.planPage request page rows = .ok positions ∧
          text.toList =
            front ++ ((dialect.windowWord compiler.setting rows positions).toList ++ [' ']) ++
              dialect.rear compiler.setting request) ∧
        dialect.readWindow? compiler.setting request text =
          some (Set.Ioc (page.toNat * rows.toNat) ((page.toNat + 1) * rows.toNat))) ∧
    (∀ page other window otherWindow,
      compiler.SelectsPage configuration request dialect page rows window →
        compiler.SelectsPage configuration request dialect other rows otherWindow →
          page ≠ other → ∀ position ∈ window, position ∉ otherWindow) ∧
    ∀ page window, compiler.SelectsPage configuration request dialect page rows window →
      ∀ later ∈ window, ∀ position, 1 ≤ position → position ≤ later →
        ∃ earlier earlierWindow,
          compiler.SelectsPage configuration request dialect earlier rows earlierWindow ∧
            position ∈ earlierWindow := by
  refine ⟨fun page => exists_text_batchQuery_iff configuration chosen passes,
    fun page positions planned => ?_,
    fun page text => window_of_text chosen passes,
    fun page other window otherWindow => not_mem_of_selectsPage chosen passes,
    fun page window selects later reached position => ?_⟩
  · obtain ⟨-, -, -, resolved⟩ := planPage_eq_ok_iff.mp planned
    obtain ⟨-, offset, last⟩ := Request.resolvePage_eq_ok_iff.mp resolved
    exact ⟨offset, last, Request.toNat_offset_add_one resolved⟩
  · exact fun positive => exists_selectsPage chosen passes selects positive reached

def sortedColumn : Request where
  table := "Item"
  fields := [{ name := "Name" }]
  order := [{ name := "Name2" }]

/-- The second of two pages that share all positions but the last. -/
theorem batchQuery_windows_sortedColumn :
    Dialect.sqlServer.compiler.dialect = some .sqlServer ∧
      sortedColumn.PassesPageChecks Dialect.sqlServer.compiler.setting ∧
      ∃ text, Dialect.sqlServer.compiler.text .initial (.batchQuery 1 0x7FFFFFFFFFFFFFFF)
          sortedColumn = .ok text ∧
        Dialect.sqlServer.readWindow? Dialect.sqlServer.compiler.setting sortedColumn text =
          some (Set.Ioc 0x7FFFFFFFFFFFFFFF 0xFFFFFFFFFFFFFFFE) := by
  have passes : sortedColumn.PassesPageChecks Dialect.sqlServer.compiler.setting :=
    ⟨rfl, rfl, rfl⟩
  obtain ⟨accepts, -, reads, -, -⟩ :=
    batchQuery_windows rfl passes .initial 0x7FFFFFFFFFFFFFFF
  obtain ⟨text, accepted⟩ := (accepts 1).mpr ⟨by decide, by decide⟩
  exact ⟨rfl, passes, text, accepted, (reads 1 text accepted).2⟩

example : Dialect.mySql.compiler.text .initial (.batchQuery 2 25) sortedColumn =
    .ok "SELECT \x60Name\x60 FROM \x60Item\x60 ORDER BY \x60Name2\x60 ASC LIMIT 50, 25 ;" := by
  decide +kernel

end Compiler

end SqlCompiler
