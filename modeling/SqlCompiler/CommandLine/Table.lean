import SqlCompiler.Dialect

/-!
# Framed tables

A table of texts is drawn with lines around and between its cells.  The first
row is the heading, set off by a double line.  Every column is as wide as its
widest cell, with one space on either side.
-/

namespace SqlCompiler

namespace CommandLine

def columnWidths (rows : List (List String)) : List Nat :=
  match rows with
  | [] => []
  | row :: rest =>
      rest.foldl (fun widths cells => List.zipWith (fun width cell => max width cell.length)
        widths cells) (row.map String.length)

def padEnd (width : Nat) (text : String) : String :=
  text ++ .ofList (List.replicate (width - text.length) ' ')

/-- A horizontal line with its left end, its fill, its crossings and its right end. -/
def ruleLine (widths : List Nat) (left fill crossing right : String) : String :=
  left ++ crossing.intercalate (widths.map (fun width =>
    String.join (List.replicate (width + 2) fill))) ++ right

def rowLine (widths : List Nat) (row : List String) : String :=
  "│ " ++ " ┆ ".intercalate (List.zipWith padEnd widths row) ++ " │"

def tableLines (heading : List String) (rows : List (List String)) : List String :=
  let widths := columnWidths (heading :: rows)
  let between := ruleLine widths "├" "╌" "┼" "┤"
  [ruleLine widths "┌" "─" "┬" "┐", rowLine widths heading, ruleLine widths "╞" "═" "╪" "╡"] ++
    (rows.map (rowLine widths)).intersperse between ++
    [ruleLine widths "└" "─" "┴" "┘"]

def dialectHeading : List String :=
  ["Dialect", "Quotes", "Prefix", "Hints", "Multi-statement", "Average as"]

def yesOrNo (flag : Bool) : String :=
  if flag then "yes" else "no"

def dialectRow (name : String) (setting : Setting) : List String :=
  [name, setting.openingQuote ++ setting.closingQuote, setting.parameterMark,
    yesOrNo setting.allowsHints, yesOrNo setting.allowsSeveralStatements,
    setting.averageType.getD "-"]

/-- The table of all dialects with their default settings. -/
def dialectTable : List String :=
  tableLines dialectHeading
    (Dialect.all.map (fun dialect => dialectRow dialect.name dialect.setting))

end CommandLine

end SqlCompiler
