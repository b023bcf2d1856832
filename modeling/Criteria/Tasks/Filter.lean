import Criteria.Condition

namespace Criteria.Tasks

structure Filter where
  list : Option String := none
  all : Bool := false
  minPriority : Option Int64 := none
  search : Option String := none
  limit : Option UInt64 := none
  deriving DecidableEq

namespace Filter

def onList (q : Query) (name : String) : Except QueryError Query := do
  let ids ← (Query.empty.select "_id").andEq "name" (.scalar (.text name))
  q.and "list_id" (.plain .member) (.subquery "lists" ids)

def matching (q : Query) (text : String) : Except QueryError Query := do
  let pattern := Value.scalar (.text ("%" ++ text ++ "%"))
  let named ← Query.empty.and "name" (.plain .like) pattern
  return q.andGroup (← named.or "content" (.plain .like) pattern)

/-- Open tasks unless all are asked for, the most urgent and of these the oldest first. -/
def query (filter : Filter) : Except QueryError Query := do
  let q ← if filter.all then pure Query.empty
    else Query.empty.andEq "done" (.scalar (.bool false))
  let q ← match filter.list with
    | some name => onList q name
    | none => pure q
  let q ← match filter.minPriority with
    | some least => q.and "priority" (.plain .ge) (.scalar (.int least))
    | none => pure q
  let q ← match filter.search with
    | some text => matching q text
    | none => pure q
  let q := (q.orderDesc "priority").orderAsc "_id"
  return match filter.limit with
    | some n => q.withLimit n
    | none => q

end Filter

end Criteria.Tasks
