import Criteria.Request
import Criteria.Row

namespace Criteria

abbrev Store :=
  Request → Except StorageError (List Row)

namespace Store

/-- The same rows for every request, whatever its limit. -/
def serving (rows : List Row) : Store :=
  fun _ => .ok rows

def limited (rows : List Row) : Store :=
  fun request =>
    match request.limit with
    | some n => .ok (rows.take n.toNat)
    | none => .ok rows

def failing (error : StorageError) : Store :=
  fun _ => .error error

end Store

end Criteria
