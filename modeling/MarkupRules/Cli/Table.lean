import MarkupRules.Text.Width

/-!
Tables with lines between their cells.
-/
namespace MarkupRules.Cli.Table

/-- The lines of a cell. -/
def cellLines (cell : String) : List String := cell.splitOn "\n"

/-- The columns that a cell takes. -/
def cellWidth (cell : String) : Nat :=
  (cellLines cell).foldl (fun n line => max n (Text.columns line)) 0

/-- The widths of the columns of a table. -/
def widths : List (List String) → List Nat
  | [] => []
  | [row] => row.map cellWidth
  | row :: rest => List.zipWith max (row.map cellWidth) (widths rest)

/-- A line across the table: `fill` between `left` and `right`, with `cross` where columns meet. -/
def rule (widths : List Nat) (left fill cross right : String) : String :=
  left ++ cross.intercalate (widths.map fun w => String.join (List.replicate (w + 2) fill)) ++
    right

/-- A text with blanks behind it up to a width. -/
def padded (width : Nat) (line : String) : String :=
  line ++ String.ofList (List.replicate (width - Text.columns line) ' ')

/-- One line of a row. -/
def rowLine (widths : List Nat) (row : List (List String)) (index : Nat) : String :=
  let cells := List.zipWith (fun width lines => " " ++ padded width (lines.getD index "") ++ " ")
    widths row
  "│" ++ "┆".intercalate cells ++ "│"

/-- The lines of a row, as many as its tallest cell has. -/
def rowLines (widths : List Nat) (row : List String) : List String :=
  let cells := row.map cellLines
  let height := cells.foldl (fun n lines => max n lines.length) 0
  (List.range height).map (rowLine widths cells)

/-- The lines of rows with a dashed line between two. -/
def bodyLines (widths : List Nat) : List (List String) → List String
  | [] => []
  | [row] => rowLines widths row
  | row :: rest => rowLines widths row ++ [rule widths "├" "╌" "┼" "┤"] ++ bodyLines widths rest

/-- The lines of a table. -/
def lines (header : List String) (rows : List (List String)) : List String :=
  let widths := widths (header :: rows)
  [rule widths "┌" "─" "┬" "┐"] ++ rowLines widths header ++ [rule widths "╞" "═" "╪" "╡"] ++
    bodyLines widths rows ++ [rule widths "└" "─" "┴" "┘"]

end MarkupRules.Cli.Table
