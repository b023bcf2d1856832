import Criteria.Proofs.Alignment
import Criteria.Proofs.Executing
import Criteria.Proofs.Form
import Criteria.Proofs.Tasks.Filtering

namespace Criteria

def Request.withArguments (r : Request) (arguments : List String) : Request :=
  { r with arguments }

@[simp] theorem Request.statement_withArguments (r : Request) (arguments : List String) :
    (r.withArguments arguments).statement = r.statement := rfl

def Execution.statements (e : Execution α) : List String :=
  e.requests.map Request.statement

/-- The second asks what the first asks, with other arguments. -/
def Execution.AsksAlike (e : Execution α) (other : Execution β) (arguments : List String) : Prop :=
  other.requests = e.requests.map (·.withArguments arguments) ∧ other.statements = e.statements

theorem Execution.AsksAlike.of_requests {e : Execution α} {other : Execution β}
    {request : Request} {arguments : List String} (asked : e.requests = [request])
    (also : other.requests = [request.withArguments arguments]) :
    e.AsksAlike other arguments := by
  simp [AsksAlike, statements, asked, also]

namespace Query

variable {q r : Query}

theorem request_of_form (alike : q.form = r.form) (table : String) (columns : List String)
    (limit : Option UInt64) :
    r.request table columns limit =
      (q.request table columns limit).withArguments r.compile.arguments := by
  simp only [request, Request.withArguments, orderText?, selection_of_form alike,
    orderings_of_form alike]

section

variable (alike : q.form = r.form) (store other : Store) (entity : Entity α)
include alike

theorem get_asksAlike :
    (q.get store entity).AsksAlike (r.get other entity) r.compile.arguments := by
  refine .of_requests (q.asks_get store entity).requests ?_
  rw [(r.asks_get other entity).requests, request_of_form alike]

theorem getList_asksAlike :
    (q.getList store entity).AsksAlike (r.getList other entity) r.compile.arguments := by
  refine .of_requests (q.asks_getList store entity).requests ?_
  rw [(r.asks_getList other entity).requests, request_of_form alike, limit_of_form alike]

theorem count_asksAlike :
    (q.count store entity).AsksAlike (r.count other entity) r.compile.arguments := by
  refine .of_requests (q.asks_count store entity).requests ?_
  rw [(r.asks_count other entity).requests, request_of_form alike]

end

theorem argument_of_scalar {i : Nat}
    (same : (Entry.scalars q.entries)[i]? = (Entry.scalars r.entries)[i]?) :
    q.compile.arguments[i]? = r.compile.arguments[i]? := by
  simp only [compile, Entry.arguments_joinedClause, List.getElem?_map, same]

theorem length_arguments_of_form (alike : q.form = r.form) :
    q.compile.arguments.length = r.compile.arguments.length := by
  simp only [compile, Entry.arguments_joinedClause, List.length_map,
    length_scalars_of_form alike]

end Query

namespace Tasks.Filter

/-- The same settings are there, whatever their values; the limit is not among the values. -/
structure SameFlags (first second : Filter) : Prop where
  list : first.list.isSome = second.list.isSome
  all : first.all = second.all
  minPriority : first.minPriority.isSome = second.minPriority.isSome
  search : first.search.isSome = second.search.isSome
  limit : first.limit = second.limit

theorem form_asked {first second : Filter} (same : first.SameFlags second) :
    first.asked.form = second.asked.form := by
  obtain ⟨list, all, least, search, limit⟩ := first
  obtain ⟨otherList, otherAll, otherLeast, otherSearch, otherLimit⟩ := second
  obtain ⟨sameList, sameAll, sameLeast, sameSearch, sameLimit⟩ := same
  dsimp only at sameList sameAll sameLeast sameSearch sameLimit
  subst sameAll sameLimit
  cases list <;> cases otherList <;> cases sameList <;> cases least <;> cases otherLeast <;>
    cases sameLeast <;> cases search <;> cases otherSearch <;> cases sameSearch <;>
    cases all <;> rfl

end Tasks.Filter

/-- Other values leave the text of a clause as it is, and with it every request but for its
arguments. So a listing of tasks runs one statement for all values of its settings. -/
theorem values_stay_out :
    (∀ q r : Query, q.form = r.form →
      q.compile.selection = r.compile.selection ∧
        q.compile.arguments.length = r.compile.arguments.length ∧
        (∀ i : Nat, (Entry.scalars q.entries)[i]? = (Entry.scalars r.entries)[i]? →
          q.compile.arguments[i]? = r.compile.arguments[i]?) ∧
        ∀ (α : Type) (store other : Store) (entity : Entity α),
          (q.get store entity).AsksAlike (r.get other entity) r.compile.arguments ∧
            (q.getList store entity).AsksAlike (r.getList other entity) r.compile.arguments ∧
            (q.count store entity).AsksAlike (r.count other entity) r.compile.arguments) ∧
      ∀ first second : Tasks.Filter, first.SameFlags second →
        ∃ q r, first.query = .ok q ∧ second.query = .ok r ∧
          ∀ store other : Store,
            (q.getList store Tasks.Task.entity).statements =
              (r.getList other Tasks.Task.entity).statements := by
  refine ⟨fun q r alike => ⟨Query.selection_of_form alike, Query.length_arguments_of_form alike,
    fun i => Query.argument_of_scalar, fun α store other entity =>
      ⟨Query.get_asksAlike alike store other entity, Query.getList_asksAlike alike store other entity,
        Query.count_asksAlike alike store other entity⟩⟩, fun first second same => ?_⟩
  have alike := Tasks.Filter.form_asked same
  refine ⟨first.asked, second.asked, first.query_eq, second.query_eq, fun store other => ?_⟩
  exact (Query.getList_asksAlike alike store other Tasks.Task.entity).2.symm

private def listed (name : String) (first second : Scalar) : Query :=
  ⟨[⟨.and, .condition ⟨"list_id", ⟨.member, true⟩, .subquery "lists"
      ⟨[⟨.or, .condition ⟨"name", .plain .like, .scalar (.text name)⟩⟩], some "_id", [], some 2⟩⟩⟩,
    ⟨.or, .group [⟨.and, .condition ⟨"ratio", .plain .member, .list [first, second]⟩⟩]⟩],
    none, [.desc "_id"], none⟩

private def urgentWork : Tasks.Filter :=
  { list := some "Work", minPriority := some 2 }

private def quotedList : Tasks.Filter :=
  { list := some "x' OR '1' = '1' --?", minPriority := some (-1) }

theorem values_stay_out_quoted :
    (listed "a" (.int 1) (.bool true)).form =
        (listed "?) OR (1 = 1" (.int 1) (.text "'")).form ∧
      (listed "a" (.int 1) (.bool true)).compile.selection =
        (listed "?) OR (1 = 1" (.int 1) (.text "'")).compile.selection ∧
      (listed "a" (.int 1) (.bool true)).compile.arguments[1]? =
        (listed "?) OR (1 = 1" (.int 1) (.text "'")).compile.arguments[1]? ∧
      urgentWork.SameFlags quotedList ∧
      ∃ q r, urgentWork.query = .ok q ∧ quotedList.query = .ok r ∧
        ∀ store other : Store,
          (q.getList store Tasks.Task.entity).statements =
            (r.getList other Tasks.Task.entity).statements := by
  have alike : (listed "a" (.int 1) (.bool true)).form =
      (listed "?) OR (1 = 1" (.int 1) (.text "'")).form := rfl
  have flags : urgentWork.SameFlags quotedList := ⟨rfl, rfl, rfl, rfl, rfl⟩
  obtain ⟨queries, filters⟩ := values_stay_out
  obtain ⟨selection, _, arguments, _⟩ := queries _ _ alike
  exact ⟨alike, selection, arguments 1 rfl, flags, filters _ _ flags⟩

end Criteria
