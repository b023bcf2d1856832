import Mathlib.Data.List.Perm.Basic
import Mathlib.Data.List.Perm.Subperm
import Criteria.Sql.Evaluation

/-!
The order of rows. Rows come as they were read wherever the sort keys leave them equal, so an engine
that reads them otherwise answers otherwise, unless the keys decide between any two of them.
-/

namespace Criteria.Sql

instance : Std.TransCmp Datum.order :=
  inferInstanceAs (Std.TransCmp (compareLex (compareOn Datum.rank)
    (compareLex (compareOn Datum.units) (compareOn Datum.bytes))))

instance (key : SortKey) : Std.TransCmp (SortKey.order key) := by
  have ascending : Std.TransCmp fun a b : Scope =>
      (a.value key.column).order (b.value key.column) :=
    { eq_swap := Std.OrientedCmp.eq_swap, isLE_trans := Std.TransCmp.isLE_trans }
  obtain ⟨column, direction⟩ := key
  cases direction with
  | ascending => exact ascending
  | descending =>
      have swapped : SortKey.order ⟨column, .descending⟩ = fun a b : Scope =>
          (b.value column).order (a.value column) :=
        funext fun a => funext fun b => Std.OrientedCmp.eq_swap.symm
      rw [swapped]
      exact Std.TransCmp.opposite

instance (keys : List SortKey) : Std.TransCmp (Scope.order keys) := by
  induction keys with
  | nil => exact { eq_swap := rfl, isLE_trans := fun _ _ => rfl }
  | cons key later induction =>
      exact inferInstanceAs (Std.TransCmp (compareLex (SortKey.order key) (Scope.order later)))

theorem pairwise_mergeSort {cmp : α → α → Ordering} [Std.TransCmp cmp] (items : List α) :
    (items.mergeSort fun a b => (cmp a b).isLE).Pairwise fun a b => (cmp a b).isLE = true := by
  refine List.pairwise_mergeSort (fun _ _ _ => Std.TransCmp.isLE_trans) (fun a b => ?_) items
  rw [@Std.OrientedCmp.eq_swap _ cmp _ b a]
  cases cmp a b <;> rfl

/-- Items that a comparison tells apart have one order under it. -/
theorem eq_of_perm_of_apart {cmp : α → α → Ordering} [Std.OrientedCmp cmp] {items others : List α}
    (perm : items.Perm others) (apart : items.Pairwise fun a b => cmp a b ≠ .eq)
    (sorted : items.Pairwise fun a b => (cmp a b).isLE = true)
    (sorted' : others.Pairwise fun a b => (cmp a b).isLE = true) : items = others := by
  have strictly {items : List α} (sorted : items.Pairwise fun a b => (cmp a b).isLE = true)
      (apart : items.Pairwise fun a b => cmp a b ≠ .eq) :
      items.Pairwise fun a b => cmp a b = .lt := by
    refine (sorted.and apart).imp fun {a b} both => ?_
    obtain ⟨least, different⟩ := both
    cases compared : cmp a b with
    | lt => rfl
    | eq => exact absurd compared different
    | gt => rw [compared] at least; cases least
  have apart' : others.Pairwise fun a b => cmp a b ≠ .eq := by
    refine (perm.pairwise_iff fun different => ?_).mp apart
    rwa [ne_eq, Std.OrientedCmp.eq_comm]
  refine List.Perm.eq_of_pairwise (fun a b _ _ before after => ?_) (strictly sorted apart)
    (strictly sorted' apart') perm
  rw [@Std.OrientedCmp.eq_swap _ cmp, after] at before
  cases before

theorem mem_of_mem_limited {limit : Option Nat} {items : List α} {item : α}
    (member : item ∈ limited limit items) : item ∈ items := by
  unfold limited at member
  split at member
  · exact List.mem_of_mem_take member
  · exact member

namespace Scope

variable {keys : List SortKey} {scopes sorted : List Scope}

theorem sort_perm (keys : List SortKey) (scopes : List Scope) : (sort keys scopes).Perm scopes :=
  List.mergeSort_perm _ _

theorem pairwise_sort (keys : List SortKey) (scopes : List Scope) :
    (sort keys scopes).Pairwise fun a b => (Scope.order keys a b).isLE = true :=
  pairwise_mergeSort scopes

theorem sort_nil (scopes : List Scope) : sort [] scopes = scopes :=
  List.mergeSort_of_pairwise (List.pairwise_of_forall fun _ _ => rfl)

/-- The keys tell any two of the rows apart. -/
def Apart (keys : List SortKey) (scopes : List Scope) : Prop :=
  scopes.Pairwise fun a b => Scope.order keys a b ≠ .eq

/-- There is one order for rows that the keys tell apart. -/
theorem eq_sort_of_perm (perm : sorted.Perm scopes) (apart : Apart keys scopes)
    (ordered : sorted.Pairwise fun a b => (Scope.order keys a b).isLE = true) :
    sorted = sort keys scopes := by
  refine eq_of_perm_of_apart (perm.trans (sort_perm keys scopes).symm) ?_ ordered
    (pairwise_sort keys scopes)
  refine (perm.pairwise_iff fun different => ?_).mpr apart
  rwa [ne_eq, Std.OrientedCmp.eq_comm]

end Scope

namespace Select

variable {db : Database} {outer : Scope} {select : Select}

/-- The rows that the condition admits, in the order of the table. -/
def kept (db : Database) (outer : Scope) (select : Select) : List Scope :=
  match db.table? select.table with
  | none => []
  | some t =>
      (t.rows.map fun row => ⟨t.columns, row⟩ :: outer).filter fun scope =>
        Expr.admits db scope select.condition

/-- The sort keys leave the order of the rows to no engine. -/
def Decided (db : Database) (outer : Scope) (select : Select) : Prop :=
  Scope.Apart select.orderings (select.kept db outer)

/-- In whatever order the rows are read, those that the condition admits come sorted by the keys. -/
theorem exists_sorted (db : Database) (outer : Scope) (select : Select) :
    ∃ sorted, sorted.Perm (select.kept db outer) ∧
      (sorted.Pairwise fun a b => (Scope.order select.orderings a b).isLE = true) ∧
      select.rows db outer = (limited select.limit sorted).map (·.project select.columns) := by
  obtain ⟨columns, table, condition, orderings, limit⟩ := select
  simp only [rows, kept]
  cases db.table? table with
  | none => exact ⟨[], .refl _, .nil, by cases limit <;> simp [limited]⟩
  | some t =>
      have read := ((db.plan.visit_perm ⟨columns, table, condition, orderings, limit⟩ t).map
        fun row => (⟨t.columns, row⟩ :: outer : Scope)).filter
          fun scope => Expr.admits db scope condition
      exact ⟨_, (Scope.sort_perm orderings _).trans read, Scope.pairwise_sort _ _, rfl⟩

theorem rows_of_decided (decided : select.Decided db outer) :
    select.rows db outer =
      (limited select.limit (Scope.sort select.orderings (select.kept db outer))).map
        (·.project select.columns) := by
  obtain ⟨sorted, perm, ordered, rows⟩ := select.exists_sorted db outer
  rw [rows, Scope.eq_sort_of_perm perm decided ordered]

theorem rows_perm_of_unlimited (unlimited : select.limit = none) :
    (select.rows db outer).Perm ((select.kept db outer).map (·.project select.columns)) := by
  obtain ⟨sorted, perm, _, rows⟩ := select.exists_sorted db outer
  rw [rows, unlimited]
  exact perm.map _

/-- Without sort keys the rows come in the order in which they are read. -/
theorem rows_unordered {t : Table} {table : String} (columns : List String)
    (condition : Option Expr) (limit : Option Nat) (found : db.table? table = some t) :
    Select.rows db outer ⟨columns, table, condition, [], limit⟩ =
      limited limit ((((db.plan.visit ⟨columns, table, condition, [], limit⟩ t).map fun row =>
        ⟨t.columns, row⟩ :: outer).filter fun scope => Expr.admits db scope condition).map
          (·.project columns)) := by
  rw [rows, found]
  simp only [Scope.sort_nil]
  cases limit <;> simp [limited, List.map_take]

end Select

instance : LeftCommutative Truth.or where
  left_comm a b c := by cases a <;> cases b <;> cases c <;> rfl

/-- Whether a value is among others is the same in whatever order they come. -/
theorem Scope.inColumn_perm {values others : List Datum} (scope : Scope) (column : String)
    (affinity : Affinity) (perm : values.Perm others) :
    scope.inColumn column affinity values = scope.inColumn column affinity others :=
  (perm.map _).foldr_eq _

end Criteria.Sql
