/-!
# Tables of runs

A table of finished runs. Rows are numbered from one in the order in which they
are added, and no number is used twice. A row needs a flow name and a base
address, and its integers fit into 64 bits. The latest rows come first by the
text of their time, and of equal times those added later.
-/

namespace PageFlow.History

/-- The columns of a row as they are given; a missing one is null. -/
structure Entry where
  flowName : Option String
  baseUrl : Option String
  passed : Option Int
  failed : Option Int
  total : Option Int
  duration : Option Int
  createdAt : Option String
  deriving DecidableEq, Repr, Inhabited

structure Row where
  id : Nat
  entry : Entry
  deriving DecidableEq, Repr, Inhabited

/-- The rows in the order in which they were added. -/
structure Table where
  rows : List Row
  deriving DecidableEq, Repr, Inhabited

/-- Why a row or a question is refused. -/
inductive Refusal where
  | nullColumn (name : String)
  | integerSize
  deriving DecidableEq, Repr

def Refusal.message : Refusal → String
  | .nullColumn name => "NOT NULL constraint failed: test_runs." ++ name
  | .integerSize => "Python int too large to convert to SQLite INTEGER"

/-- Fits into 64 bits with a sign. -/
def fits (n : Int) : Bool :=
  decide (-9223372036854775808 ≤ n) && decide (n < 9223372036854775808)

def Entry.integers (entry : Entry) : List Int :=
  [entry.passed, entry.failed, entry.total, entry.duration].filterMap id

/-- What speaks against an entry, if anything does. Sizes are looked at
first. -/
def Entry.refusal? (entry : Entry) : Option Refusal :=
  if !entry.integers.all fits then some .integerSize
  else if entry.flowName.isNone then some (.nullColumn "flow_name")
  else if entry.baseUrl.isNone then some (.nullColumn "base_url")
  else none

namespace Table

def empty : Table := ⟨[]⟩

/-- Adds an entry and gives the number of its row. -/
def insert (table : Table) (entry : Entry) : Except Refusal (Nat × Table) :=
  match entry.refusal? with
  | some refusal => .error refusal
  | none =>
    let id := table.rows.length + 1
    .ok (id, ⟨table.rows ++ [⟨id, entry⟩]⟩)

/-- The order of times: a missing one comes before every text. -/
def timeLe : Option String → Option String → Bool
  | none, _ => true
  | some _, none => false
  | some a, some b => decide (a ≤ b)

/-- A row that is listed no later than another one: its time is later, or equal
and its number higher. -/
def listedBefore (a b : Row) : Bool :=
  if a.entry.createdAt = b.entry.createdAt then b.id ≤ a.id
  else timeLe b.entry.createdAt a.entry.createdAt

def latestFirst (table : Table) : List Row :=
  table.rows.mergeSort listedBefore

/-- The first so many of the latest rows; a negative limit gives none. -/
def recent (table : Table) (limit : Int) : Except Refusal (List Row) :=
  if fits (max 0 limit) then .ok (table.latestFirst.take limit.toNat)
    else .error .integerSize

end Table

end PageFlow.History
