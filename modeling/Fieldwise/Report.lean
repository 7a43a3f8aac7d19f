import Fieldwise.Scope
import Fieldwise.Text.Width

/-! # Reports

A generation as a table: one row for each correspondence, or one row without fields for an operation
that has none. The summary counts the correspondences of each kind and pair. Tables are laid out in
columns as wide as their widest cell. -/

namespace Fieldwise

structure RowMatch where
  sourceField : String
  targetField : String
  matchKind : String
  deriving DecidableEq, Repr

structure RowKey where
  kind : String
  targetSchema : String
  sourceSchema : String
  deriving DecidableEq, Repr

/-- A row: an operation, and one of its correspondences if it has any. -/
structure ReportRow where
  key : RowKey
  matched : Option RowMatch
  deriving DecidableEq, Repr

/-- A row of the summary: an operation and how many correspondences it has. -/
structure SummaryRow where
  key : RowKey
  count : Nat
  deriving DecidableEq, Repr

namespace Operation

def rowKey (operation : Operation) : RowKey :=
  ⟨operation.kind.value, operation.targetSchema, operation.sourceSchema⟩

def rows (operation : Operation) : List ReportRow :=
  match operation.correspondences with
  | [] => [⟨operation.rowKey, none⟩]
  | correspondences => correspondences.map fun correspondence =>
    ⟨operation.rowKey, some ⟨correspondence.sourceField, correspondence.targetField,
      correspondence.kind.value⟩⟩

end Operation

namespace Generation

/-- The rows of all operations, or of those of one kind. -/
def rows (kind : Option OperationKind) (generation : Generation) : List ReportRow :=
  (generation.operations.filter fun operation =>
    kind.isNone || kind == some operation.kind).flatMap Operation.rows

end Generation

/-- Counts a row under its key; a new key goes to the end. -/
def SummaryRow.tally (row : ReportRow) : List SummaryRow → List SummaryRow
  | [] => [⟨row.key, if row.matched.isSome then 1 else 0⟩]
  | entry :: rest =>
    if entry.key = row.key then
      ⟨entry.key, entry.count + (if row.matched.isSome then 1 else 0)⟩ :: rest
    else entry :: SummaryRow.tally row rest

/-- The summary of rows: keys in the order in which they first occur. -/
def summary (rows : List ReportRow) : List SummaryRow :=
  rows.foldl (fun done row => SummaryRow.tally row done) []

/-- A table of texts; absent cells are empty. -/
structure Table where
  columns : List String
  rows : List (List (Option String))
  deriving DecidableEq, Repr

namespace Table

def keyColumns : List String :=
  ["kind", "target_schema", "source_schema"]

def keyCells (key : RowKey) : List (Option String) :=
  [some key.kind, some key.targetSchema, some key.sourceSchema]

def ofRows (rows : List ReportRow) : Table :=
  ⟨keyColumns ++ ["source_field", "target_field", "match_kind"],
    rows.map fun row => keyCells row.key ++
      [row.matched.map (·.sourceField), row.matched.map (·.targetField),
        row.matched.map (·.matchKind)]⟩

def ofSummary (rows : List SummaryRow) : Table :=
  ⟨keyColumns ++ ["n_fields"],
    rows.map fun row => keyCells row.key ++ [some (toString row.count)]⟩

/-- The first rows of a table; a negative count leaves out that many at the end. -/
def head (count : Int) (table : Table) : Table :=
  let kept := if 0 ≤ count then count.toNat else table.rows.length - (-count).toNat
  { table with rows := table.rows.take kept }

def cellText (cell : Option String) : String :=
  cell.getD "null"

def widest (texts : List String) : Nat :=
  texts.foldl (fun width text => max width (Text.displayWidth text)) 0

def widths (columns : List String) (rows : List (List String)) : List Nat :=
  columns.zipIdx.map fun (column, place) =>
    widest (column :: rows.map fun row => row.getD place "")

/-- A text with blanks up to a width. -/
def padded (width : Nat) (text : String) : String :=
  text ++ String.ofList (List.replicate (width - Text.displayWidth text) ' ')

def rowLine (widths : List Nat) (cells : List String) : String :=
  "|" ++ String.join ((widths.zip cells).map fun (width, cell) => " " ++ padded width cell ++ " |")

/-- The line under the header. -/
def ruleLine (widths : List Nat) : String :=
  "|" ++ String.join (widths.map fun width =>
    String.ofList (List.replicate (width + 2) '-') ++ "|")

/-- The layout of a table: its size, the header, a rule and the rows. -/
def lines (table : Table) : List String :=
  let rows := table.rows.map (·.map cellText)
  let widths := widths table.columns rows
  ("shape: (" ++ toString table.rows.length ++ ", " ++ toString table.columns.length ++ ")") ::
    rowLine widths table.columns :: ruleLine widths :: rows.map (rowLine widths)

end Table

end Fieldwise
