import PageFlow.History.Table
import PageFlow.Json.Members

/-!
# Tables as documents

A table is kept as a JSON array with one array for each of its rows: the number
of the row and the columns of its entry, null for those that are missing.
-/

namespace PageFlow.History

def textColumn (column : Option String) : Json :=
  column.elim .null .text

def intColumn (column : Option Int) : Json :=
  column.elim .null .int

def Row.document (row : Row) : Json :=
  .array [.int row.id, textColumn row.entry.flowName,
    textColumn row.entry.baseUrl, intColumn row.entry.passed,
    intColumn row.entry.failed, intColumn row.entry.total,
    intColumn row.entry.duration, textColumn row.entry.createdAt]

def Table.document (table : Table) : Json :=
  .array (table.rows.map Row.document)

def readTextColumn : Json → Option (Option String)
  | .null => some none
  | .text text => some (some text)
  | _ => none

/-- The integer of a column, if the column can hold one. -/
def readIntColumn : Json → Option (Option Int)
  | .null => some none
  | .int n => some (some n)
  | _ => none

def Row.ofDocument : Json → Option Row
  | .array [.int id, flowName, baseUrl, passed, failed, total, duration,
    createdAt] => do
    let flowName ← readTextColumn flowName
    let baseUrl ← readTextColumn baseUrl
    let passed ← readIntColumn passed
    let failed ← readIntColumn failed
    let total ← readIntColumn total
    let duration ← readIntColumn duration
    let createdAt ← readTextColumn createdAt
    return ⟨id.toNat,
      ⟨flowName, baseUrl, passed, failed, total, duration, createdAt⟩⟩
  | _ => none

def Table.ofDocument : Json → Option Table
  | .array rows => (rows.mapM Row.ofDocument).map Table.mk
  | _ => none

@[simp] theorem readTextColumn_textColumn (column : Option String) :
    readTextColumn (textColumn column) = some column := by
  cases column <;> rfl

@[simp] theorem readIntColumn_intColumn (column : Option Int) :
    readIntColumn (intColumn column) = some column := by
  cases column <;> rfl

theorem Row.ofDocument_document (row : Row) :
    Row.ofDocument row.document = some row := by
  simp [Row.document, Row.ofDocument]

theorem Table.ofDocument_document (table : Table) :
    Table.ofDocument table.document = some table := by
  have rows : ∀ rows : List Row,
      (rows.map Row.document).mapM Row.ofDocument = some rows := by
    intro rows
    induction rows with
    | nil => rfl
    | cons row rest ih => simp [Row.ofDocument_document, ih]
  simp [Table.document, Table.ofDocument, rows]

end PageFlow.History
