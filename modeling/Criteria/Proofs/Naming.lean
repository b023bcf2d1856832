import Criteria.Clause
import Criteria.Proofs.Reachable

namespace Criteria

/-- What is written: text of the language, or a name as it was given. -/
inductive Fragment
  | fixed (text : String)
  | column (name : String)
  | projection (name : String)
  | sortKey (name : String)
  | table (name : String)
  deriving DecidableEq

namespace Fragment

def text : Fragment → String
  | fixed text => text
  | column name => name
  | projection name => name
  | sortKey name => name
  | table name => name

/-- The name, if it is one of a column. -/
def columnName? : Fragment → Option String
  | column name => some name
  | projection name => some name
  | sortKey name => some name
  | _ => none

def written (fragments : List Fragment) : String :=
  String.join (fragments.map text)

@[simp] theorem written_nil : written [] = "" := by
  simp [written]

@[simp] theorem written_cons (fragment : Fragment) (rest : List Fragment) :
    written (fragment :: rest) = fragment.text ++ written rest := by
  simp [written]

@[simp] theorem written_append (first second : List Fragment) :
    written (first ++ second) = written first ++ written second := by
  simp [written]

end Fragment

def SortKey.fragments : List SortKey → List Fragment
  | [] => []
  | [key] => [.sortKey key.column, .fixed (" " ++ key.direction.keyword)]
  | key :: next :: rest =>
      .sortKey key.column :: .fixed (" " ++ key.direction.keyword) :: .fixed ", " ::
        SortKey.fragments (next :: rest)

def limitFragments : Option UInt64 → List Fragment
  | some n => [.fixed (" LIMIT " ++ toString n.toNat)]
  | none => []

mutual
def Value.fragments (symbol : String) : Value → List Fragment
  | .scalar _ => [.fixed (" " ++ symbol ++ " "), .fixed "?"]
  | .list items => [.fixed " IN(", .fixed (",".intercalate (items.map fun _ => "?")), .fixed ")"]
  | .subquery table query => .fixed " IN (" :: query.selectFragments table ++ [.fixed ")"]

def Query.selectFragments (table : String) : Query → List Fragment
  | ⟨entries, projection, orderings, limit⟩ =>
      [.fixed "SELECT ", projection.elim (.fixed "*") .projection, .fixed " FROM ", .table table] ++
        (if entries.isEmpty then [] else .fixed " WHERE " :: Entry.fragments entries) ++
        (if orderings.isEmpty then [] else .fixed " ORDER BY " :: SortKey.fragments orderings) ++
        limitFragments limit

def Condition.fragments : Condition → List Fragment
  | ⟨column, op, value⟩ =>
      .fixed (if op.negated then "NOT " else "") :: .column column :: value.fragments op.symbol

def Node.fragments : Node → List Fragment
  | .condition condition => condition.fragments
  | .group entries => .fixed "(" :: Entry.fragments entries ++ [.fixed ")"]

def Entry.fragments : List Entry → List Fragment
  | [] => []
  | ⟨_, node⟩ :: rest => node.fragments ++ Entry.followingFragments rest

def Entry.followingFragments : List Entry → List Fragment
  | [] => []
  | ⟨connector, node⟩ :: rest =>
      .fixed (" " ++ connector.keyword ++ " ") :: node.fragments ++ Entry.followingFragments rest
end

theorem Clause.selection_places (items : List Scalar) :
    (Clause.places items).selection = ",".intercalate (items.map fun _ => "?") := by
  fun_induction Clause.places items with
  | case1 => rfl
  | case2 s => simp
  | case3 s t rest induction => simp [induction]

theorem SortKey.orderText?_eq_written (keys : List SortKey) :
    SortKey.orderText? keys =
      if keys.isEmpty then none else some (Fragment.written (SortKey.fragments keys)) := by
  have texts :
      ", ".intercalate (keys.map SortKey.text) = Fragment.written (SortKey.fragments keys) := by
    fun_induction SortKey.fragments keys with
    | case1 => simp
    | case2 key => simp [SortKey.text, Fragment.text, String.append_assoc]
    | case3 key next rest induction =>
        rw [List.map_cons, List.map_cons, String.intercalate_cons_cons, ← List.map_cons, induction]
        simp only [SortKey.text, Fragment.written_cons, Fragment.text, String.append_assoc]
  rw [SortKey.orderText?, texts]

theorem SortKey.selection_orderClause (keys : List SortKey) :
    (SortKey.orderClause keys).selection =
      Fragment.written
        (if keys.isEmpty then [] else .fixed " ORDER BY " :: SortKey.fragments keys) := by
  rw [SortKey.orderClause, SortKey.orderText?_eq_written]
  split <;> simp_all [Fragment.text, Clause.empty]

theorem selection_limitClause (limit : Option UInt64) :
    (limitClause limit).selection = Fragment.written (limitFragments limit) := by
  cases limit with
  | none => simp [limitClause, limitFragments, Clause.empty]
  | some n => simp [limitClause, limitFragments, Fragment.text]

mutual
theorem Value.selection_eq_written (symbol : String) :
    ∀ value : Value, (value.clause symbol).selection = Fragment.written (value.fragments symbol)
  | .scalar s => by simp [Value.clause, Value.fragments, Fragment.text]
  | .list items => by
      simp [Value.clause, Value.fragments, Fragment.text, Clause.selection_places,
        String.append_assoc]
  | .subquery table query => by
      simp [Value.clause, Value.fragments, Fragment.text, Query.selection_eq_written table query,
        String.append_assoc]

theorem Query.selection_eq_written (table : String) :
    ∀ q : Query, (q.selectClause table).selection = Fragment.written (q.selectFragments table)
  | ⟨entries, projection, orderings, limit⟩ => by
      have inner := Entry.selection_eq_written entries
      have conditions : (if entries.isEmpty then Clause.empty
          else .literal " WHERE " ++ Entry.joinedClause entries).selection =
          Fragment.written
            (if entries.isEmpty then [] else .fixed " WHERE " :: Entry.fragments entries) := by
        split <;> simp [Clause.empty, Fragment.text, inner]
      have projected :
          projection.getD "*" = (projection.elim (.fixed "*") Fragment.projection).text := by
        cases projection <;> rfl
      rw [Query.selectClause, Query.selectFragments]
      simp only [Clause.selection_append, Clause.selection_literal, conditions, projected,
        SortKey.selection_orderClause, selection_limitClause, Fragment.written_append,
        Fragment.written_cons, Fragment.written_nil, Fragment.text, String.append_assoc,
        String.append_empty]

theorem Node.selection_eq_written :
    ∀ node : Node, node.clause.selection = Fragment.written node.fragments
  | .condition ⟨column, op, value⟩ => by
      simp [Node.clause, Node.fragments, Condition.clause, Condition.fragments, Fragment.text,
        Value.selection_eq_written op.symbol value, String.append_assoc]
  | .group entries => by
      simp [Node.clause, Node.fragments, Fragment.text, Entry.selection_eq_written entries,
        String.append_assoc]

theorem Entry.selection_eq_written :
    ∀ entries : List Entry,
      (Entry.joinedClause entries).selection = Fragment.written (Entry.fragments entries)
  | [] => by simp [Entry.joinedClause, Entry.fragments, Clause.empty]
  | ⟨_, node⟩ :: rest => by
      simp [Entry.joinedClause, Entry.fragments, Node.selection_eq_written node,
        Entry.following_eq_written rest]

theorem Entry.following_eq_written :
    ∀ entries : List Entry,
      (Entry.followingClause entries).selection =
        Fragment.written (Entry.followingFragments entries)
  | [] => by simp [Entry.followingClause, Entry.followingFragments, Clause.empty]
  | ⟨connector, node⟩ :: rest => by
      simp [Entry.followingClause, Entry.followingFragments, Fragment.text,
        Node.selection_eq_written node, Entry.following_eq_written rest, String.append_assoc]
end

/-- The column of a condition is not blank; of the other names nothing is asked. -/
def Fragment.Checked : Fragment → Prop
  | column name => Text.isBlank name = false
  | _ => True

theorem Fragment.checked_opened {bare : Bool} {fragments : List Fragment} (opening : String)
    (checked : ∀ fragment ∈ fragments, fragment.Checked) :
    ∀ fragment ∈ if bare then [] else fixed opening :: fragments, fragment.Checked := by
  split
  · simp
  · exact List.forall_mem_cons.mpr ⟨trivial, checked⟩

theorem SortKey.checked_fragments (keys : List SortKey) :
    ∀ fragment ∈ SortKey.fragments keys, fragment.Checked := by
  fun_induction SortKey.fragments keys with
  | case1 => simp
  | case2 key => simp [Fragment.Checked]
  | case3 key next rest induction => simpa [Fragment.Checked] using induction

theorem checked_limitFragments (limit : Option UInt64) :
    ∀ fragment ∈ limitFragments limit, fragment.Checked := by
  cases limit <;> simp [limitFragments, Fragment.Checked]

mutual
theorem Value.WellFormed.checked {op : Op} (symbol : String) :
    ∀ {value : Value}, value.WellFormed op → ∀ fragment ∈ value.fragments symbol, fragment.Checked
  | .scalar s, _ => by simp [Value.fragments, Fragment.Checked]
  | .list items, _ => by simp [Value.fragments, Fragment.Checked]
  | .subquery table query, formed => by
      rw [Value.WellFormed] at formed
      have inner := Query.WellFormed.checked table formed.2.2
      simpa [Value.fragments, or_imp, forall_and, Fragment.Checked] using inner

theorem Query.WellFormed.checked (table : String) :
    ∀ {q : Query}, q.WellFormed → ∀ fragment ∈ q.selectFragments table, fragment.Checked
  | ⟨entries, projection, orderings, limit⟩, formed => by
      rw [Query.WellFormed] at formed
      have inner := Entry.AllWellFormed.checked formed
      have projected : (projection.elim (.fixed "*") Fragment.projection).Checked := by
        cases projection <;> trivial
      have ordered := SortKey.checked_fragments orderings
      have limited := checked_limitFragments limit
      rw [Query.selectFragments]
      refine List.forall_mem_append.mpr ⟨List.forall_mem_append.mpr
        ⟨List.forall_mem_append.mpr ⟨?_, Fragment.checked_opened " WHERE " inner⟩,
          Fragment.checked_opened " ORDER BY " ordered⟩, limited⟩
      simpa [Fragment.Checked] using projected

theorem Node.WellFormed.checked :
    ∀ {node : Node}, node.WellFormed → ∀ fragment ∈ node.fragments, fragment.Checked
  | .condition ⟨column, op, value⟩, formed => by
      rw [Node.WellFormed, Condition.WellFormed] at formed
      have valued := Value.WellFormed.checked op.symbol formed.2
      simpa [Node.fragments, Condition.fragments, Fragment.Checked, formed.1] using valued
  | .group entries, formed => by
      rw [Node.WellFormed] at formed
      have inner := Entry.AllWellFormed.checked formed.2
      simpa [Node.fragments, or_imp, forall_and, Fragment.Checked] using inner

theorem Entry.AllWellFormed.checked :
    ∀ {entries : List Entry}, Entry.AllWellFormed entries →
      ∀ fragment ∈ Entry.fragments entries, fragment.Checked
  | [], _ => by simp [Entry.fragments]
  | ⟨_, node⟩ :: rest, formed => by
      rw [Entry.AllWellFormed] at formed
      rw [Entry.fragments]
      exact List.forall_mem_append.mpr ⟨Node.WellFormed.checked formed.1,
        Entry.AllWellFormed.checked_following formed.2⟩

theorem Entry.AllWellFormed.checked_following :
    ∀ {entries : List Entry}, Entry.AllWellFormed entries →
      ∀ fragment ∈ Entry.followingFragments entries, fragment.Checked
  | [], _ => by simp [Entry.followingFragments]
  | ⟨connector, node⟩ :: rest, formed => by
      rw [Entry.AllWellFormed] at formed
      rw [Entry.followingFragments]
      exact List.forall_mem_append.mpr ⟨List.forall_mem_cons.mpr ⟨trivial,
        Node.WellFormed.checked formed.1⟩, Entry.AllWellFormed.checked_following formed.2⟩
end

namespace Query

theorem add_eq_invalidColumn_iff (q : Query) (connector : Connector) (column : String) (op : Op)
    (value : Value) :
    q.add connector column op value = .error (.invalidColumn column) ↔
      Text.isBlank column = true := by
  unfold add Condition.make
  cases blank : Text.isBlank column with
  | true => simp [Except.map]
  | false =>
      simp only [Bool.false_eq_true, if_false, iff_false]
      split
      · simp [Except.map]
      · split <;> simp [Except.map]

/-- The texts of a query are its fragments, and a blank column among these is a projection or a sort
key: a condition is refused for a blank column, and for no other is its column to blame. -/
theorem blank_names_are_settings {q : Query} (reachable : q.Reachable) :
    q.compile.selection = Fragment.written (Entry.fragments q.entries) ∧
      (q.orderText? =
        if q.orderings.isEmpty then none
        else some (Fragment.written (SortKey.fragments q.orderings))) ∧
      (∀ fragment ∈ Entry.fragments q.entries ++ SortKey.fragments q.orderings, ∀ name,
        fragment.columnName? = some name → Text.isBlank name = true →
          fragment = .projection name ∨ fragment = .sortKey name) ∧
      ∀ (connector : Connector) (column : String) (op : Op) (value : Value),
        q.add connector column op value = .error (.invalidColumn column) ↔
          Text.isBlank column = true := by
  refine ⟨Entry.selection_eq_written q.entries, SortKey.orderText?_eq_written q.orderings,
    fun fragment member name named blank => ?_, q.add_eq_invalidColumn_iff⟩
  have formed := Entry.AllWellFormed.checked ((wellFormed_iff q).mp reachable.wellFormed)
  have checked : fragment.Checked :=
    (List.mem_append.mp member).elim (formed fragment)
      (SortKey.checked_fragments q.orderings fragment)
  cases fragment with
  | column shown =>
      cases named
      rw [Fragment.Checked, blank] at checked
      cases checked
  | projection shown => cases named; exact .inl rfl
  | sortKey shown => cases named; exact .inr rfl
  | fixed text => cases named
  | table name => cases named

private def unnamed : Query :=
  (Query.empty.push .and ⟨"_id", .plain .member,
    .subquery "tasks" ((Query.empty.select " ").orderAsc "\t")⟩).orderDesc ""

private theorem unnamed_reachable : unnamed.Reachable := by
  have inner : ((Query.empty.select " ").orderAsc "\t").Reachable :=
    (Reachable.empty.select " ").orderAsc _
  have pushed := @Reachable.push _ "_id" (.plain .member) (.subquery "tasks" _) _ .and .empty
    (.subquery "tasks" inner) rfl
  exact pushed.orderDesc ""

theorem blank_names_are_settings_unnamed :
    unnamed.Reachable ∧ Fragment.projection " " ∈ Entry.fragments unnamed.entries ∧
      Text.isBlank " " = true ∧
      (∀ fragment ∈ Entry.fragments unnamed.entries ++ SortKey.fragments unnamed.orderings, ∀ name,
        fragment.columnName? = some name → Text.isBlank name = true →
          fragment = .projection name ∨ fragment = .sortKey name) ∧
      unnamed.add .or "\u00a0" (.plain .eq) (.scalar (.int 1)) =
        .error (.invalidColumn "\u00a0") := by
  obtain ⟨_, _, settings, refused⟩ := blank_names_are_settings unnamed_reachable
  exact ⟨unnamed_reachable, by decide, by decide, settings, (refused _ _ _ _).mpr (by decide)⟩

/-- `select` and the calls for sort keys take every name, and what they took is written. -/
theorem blank_names_written :
    ∃ q,
      Query.empty.and "_id" (.plain .member) (.subquery "tasks" (Query.empty.select " ")) = .ok q ∧
      (q.orderAsc "").Reachable ∧
      (q.orderAsc "").compile.selection = "_id IN (SELECT   FROM tasks)" ∧
      (q.orderAsc "").orderText? = some " ASC" ∧
      ∃ fragment ∈ Entry.fragments (q.orderAsc "").entries,
        fragment.columnName? = some " " ∧ Text.isBlank " " = true := by
  have inner : (Query.empty.select " ").Reachable := .select " " .empty
  obtain ⟨q, made, text, order, projected⟩ : ∃ q,
      Query.empty.and "_id" (.plain .member) (.subquery "tasks" (Query.empty.select " ")) = .ok q ∧
        (q.orderAsc "").compile.selection = "_id IN (SELECT   FROM tasks)" ∧
        (q.orderAsc "").orderText? = some " ASC" ∧
        Fragment.projection " " ∈ Entry.fragments (q.orderAsc "").entries :=
    ⟨_, rfl, rfl, rfl, by decide⟩
  exact ⟨q, made, (Reachable.empty.and (.subquery "tasks" inner) made).orderAsc "", text, order,
    _, projected, rfl, by decide⟩

end Query

end Criteria
