/-!
# Tables in a box

- `Table.render`: a header and rows in a box with round corners, each column as wide as its widest
  cell.

The width of a cell is its number of characters, which is right for texts in ASCII.
-/

namespace SiteConfig.Table

/-- The width of each column. -/
def widths (header : List String) (rows : List (List String)) : List Nat :=
  rows.foldl (fun ws row => List.zipWith (fun w cell => max w cell.length) ws row)
    (header.map String.length)

/-- A horizontal line with given characters at the left end, between columns and at the right. -/
def rule (left middle right : Char) (ws : List Nat) : List Char :=
  let bars := ws.map fun w => List.replicate (w + 2) '─'
  left :: (List.intercalate [middle] bars ++ [right])

/-- A row of cells, each with a blank on both sides. -/
def row (ws : List Nat) (cells : List String) : List Char :=
  let padded := List.zipWith
    (fun w cell => ' ' :: (cell.toList ++ List.replicate (w - cell.length + 1) ' ')) ws cells
  '│' :: (List.intercalate ['│'] padded ++ ['│'])

/-- A header and rows in a box. -/
def render (header : List String) (rows : List (List String)) : String :=
  let ws := widths header rows
  let lines :=
    [rule '╭' '┬' '╮' ws, row ws header, rule '├' '┼' '┤' ws] ++ rows.map (row ws)
      ++ [rule '╰' '┴' '╯' ws]
  String.ofList (List.intercalate ['\n'] lines)

end SiteConfig.Table
