import Daybook.Column
import Daybook.Task.Basic

namespace Daybook

/-- A row of the table of tasks: its identifier and its columns. -/
structure TaskRow where
  id : Int
  title : String
  description : Option String
  priority : String
  status : String
  createdAt : String
  completedAt : Option String
deriving DecidableEq, Repr

/-- The task of a row. The first column that cannot be read is at fault. -/
def TaskRow.read (row : TaskRow) : Except Error Task := do
  let priority ← readValue (Priority.parse row.priority) row.priority "priority"
  let status ← readValue (TaskStatus.parse row.status) row.status "status"
  let createdAt ← readTime row.createdAt "created_at"
  let completedAt ←
    match row.completedAt with
    | none => .ok none
    | some text => (readTime text "completed_at").map some
  return ⟨row.id, row.title, row.description, priority, status, createdAt, completedAt⟩

/-- The rows in the order of their identifiers, and the last identifier that was given out. -/
structure TaskTable where
  rows : List TaskRow
  lastId : Int
deriving DecidableEq, Repr

namespace TaskTable

def empty : TaskTable := ⟨[], 0⟩

/-- The condition on titles as the table states it. -/
def titleCondition : String := "length(trim(title)) > 0"

/-- The table admits a title when it has a character before its first NUL once the blanks U+0020 on
both sides are taken away. -/
def admitsTitle (title : String) : Bool :=
  let isSpace := fun c : Char => c == ' '
  let inner := ((title.toList.dropWhile isSpace).reverse.dropWhile isSpace).reverse
  match inner with
  | [] => false
  | c :: _ => c != '\x00'

/-- Enters a pending task and returns its identifier. -/
def create (table : TaskTable) (task : NewTask) (now : Instant) :
    Except Error (Int × TaskTable) := do
  task.validate
  if admitsTitle task.title then
    let id := table.lastId + 1
    let row : TaskRow :=
      ⟨id, task.title, task.description, task.priority.name, TaskStatus.pending.name,
        String.ofList now.storedText, none⟩
    return (id, ⟨table.rows ++ [row], id⟩)
  else .error (.database (.conditionFailed titleCondition))

def row? (table : TaskTable) (id : Int) : Option TaskRow := table.rows.find? (·.id == id)

def get (table : TaskTable) (id : Int) : Except Error Task :=
  match table.row? id with
  | some row => row.read
  | none => .error (.taskNotFound id)

/-- The pending tasks in the order in which they were made. -/
def listPending (table : TaskTable) : Except Error (List Task) :=
  (table.rows.filter (·.status == TaskStatus.pending.name)).mapM TaskRow.read

def modify (table : TaskTable) (id : Int) (f : TaskRow → TaskRow) : TaskTable :=
  ⟨table.rows.map fun row => if row.id = id then f row else row, table.lastId⟩

/-- Marks a task as completed. The time of the first completion stays. -/
def complete (table : TaskTable) (id : Int) (now : Instant) : Except Error TaskTable :=
  match table.row? id with
  | none => .error (.taskNotFound id)
  | some _ =>
      .ok <| table.modify id fun row =>
        { row with
          status := TaskStatus.completed.name
          completedAt := some (row.completedAt.getD (String.ofList now.storedText)) }

end TaskTable

inductive TaskColumn where
  | title
  | description
  | priority
  | status
  | createdAt
  | completedAt
deriving DecidableEq, Repr

namespace TaskColumn

def all : List TaskColumn := [title, description, priority, status, createdAt, completedAt]

def name : TaskColumn → String
  | title => "title"
  | description => "description"
  | priority => "priority"
  | status => "status"
  | createdAt => "created_at"
  | completedAt => "completed_at"

def ofName? (text : String) : Option TaskColumn := all.find? fun c => c.name == text

end TaskColumn

namespace TaskRow

def column (row : TaskRow) : TaskColumn → Option String
  | .title => some row.title
  | .description => row.description
  | .priority => some row.priority
  | .status => some row.status
  | .createdAt => some row.createdAt
  | .completedAt => row.completedAt

/-- The row with another text in a column, or without one where the table admits that. -/
def setColumn (row : TaskRow) (column : TaskColumn) (value : Option String) :
    Except DatabaseFault TaskRow :=
  match column, value with
  | .description, value => .ok { row with description := value }
  | .completedAt, value => .ok { row with completedAt := value }
  | .title, some text =>
      if TaskTable.admitsTitle text then .ok { row with title := text }
      else .error (.conditionFailed TaskTable.titleCondition)
  | .priority, some text => .ok { row with priority := text }
  | .status, some text => .ok { row with status := text }
  | .createdAt, some text => .ok { row with createdAt := text }
  | column, none => .error (.nullForbidden ("tasks." ++ column.name))

end TaskRow

namespace TaskTable

/-- Writes a text to a column of a row, as another program may. Returns the number of rows that were
changed. -/
def setColumn (table : TaskTable) (id : Int) (column : TaskColumn) (value : Option String) :
    Except DatabaseFault (Nat × TaskTable) :=
  match table.row? id with
  | none => .ok (0, table)
  | some row => (row.setColumn column value).map fun row => (1, table.modify id fun _ => row)

/-- Takes a row away, as another program may. Returns the number of rows that were taken. -/
def deleteRow (table : TaskTable) (id : Int) : Nat × TaskTable :=
  match table.row? id with
  | none => (0, table)
  | some _ => (1, ⟨table.rows.filter (·.id != id), table.lastId⟩)

end TaskTable

end Daybook
