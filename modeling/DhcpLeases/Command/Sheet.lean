import DhcpLeases.Pool.Usage
import DhcpLeases.Text.Cells

namespace DhcpLeases

namespace Text.Grid

def lines (cell : String) : List String :=
  cell.splitOn "\n"

def width (cell : String) : Nat :=
  (lines cell).foldl (fun w line => max w (cells line)) 0

def columnWidths (headings : List String) (rows : List (List String)) : List Nat :=
  rows.foldl (fun ws row => ws.zipWith max (row.map width)) (headings.map width)

/-- A line of a cell with a space on either side, filled up to the width of its column. -/
def filled (line : String) (w : Nat) : String :=
  " " ++ line ++ String.ofList (List.replicate (w - cells line) ' ') ++ " "

def rowLines (ws : List Nat) (row : List String) : List String :=
  let columns := row.map lines
  let height := columns.foldl (fun h ls => max h ls.length) 0
  (List.range height).map fun i =>
    "|".intercalate (columns.zipWith (fun ls w => filled (ls[i]?.getD "") w) ws)

def rule (ws : List Nat) : String :=
  "+".intercalate (ws.map fun w => String.ofList (List.replicate (w + 2) '-'))

def render (headings : List String) (rows : List (List String)) : String :=
  let ws := columnWidths headings rows
  "\n".intercalate (rowLines ws headings ++ rule ws :: rows.flatMap (rowLines ws))

end Text.Grid

structure Sheet (α : Type) where
  headings : List String
  cells : α → List String

def ListedLease.sheet : Sheet ListedLease where
  headings := ["IP address", "Hardware address", "State", "Lease start", "Lease expiration",
    "Remaining", "Pool", "Hostname"]
  cells l := [l.address.text, l.hardwareAddress.getD "", l.state.name, l.start, l.stop, l.remaining,
    l.pool, l.hostname.getD ""]

def PoolUsage.sheet : Sheet PoolUsage where
  headings := ["Pool", "Size", "Leases", "Available", "Usage"]
  cells u := [u.pool, Text.ofNat u.size, Text.ofNat u.active, Text.ofInt u.available,
    Text.ofNat u.percentage ++ "%"]

def Report.table? {α : Type} (sheet : Sheet α) (r : Report α) : Option String :=
  if r.rows.isEmpty && r.poolUnknown then none
  else some (Text.Grid.render sheet.headings (r.rows.map sheet.cells))

end DhcpLeases
