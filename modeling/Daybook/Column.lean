import Daybook.Calendar.Scan
import Daybook.Error

namespace Daybook

def readTime (text column : String) : Except Error Instant :=
  match Instant.ofStoredText? text.toList with
  | some t => .ok t
  | none => .error (.database (.unreadable (.timestamp text column)))

/-- A value that was read from a column, or the fault that it could not be. -/
def readValue {α : Type} (value : Except Error α) (text column : String) : Except Error α :=
  match value with
  | .ok a => .ok a
  | .error _ => .error (.database (.unreadable (.value text column)))

end Daybook
