import Criteria.Proofs.Binary64.RoundTrip
import Criteria.Proofs.Records

namespace Criteria

open Criteria.Sql

/-- The exact number. The infinities are given the sizes that would follow the largest ones. -/
def Binary64.value (x : Binary64) : ℚ :=
  x.units / one

/-- The number in a cell, if it holds one. -/
def Sql.Datum.number? : Datum → Option ℚ
  | integer n => some n.toInt
  | real x => if x.isNaN then none else some x.value
  | _ => none

/-- The number that a value stands for. -/
def Scalar.number? : Scalar → Option ℚ
  | bool b => some (if b then 1 else 0)
  | int n => some n.toInt
  | float x => if x.isFinite then some x.value else none
  | text _ => none
  | identity n => some n.toInt

theorem Scalar.isFinite_of_number? {s : Scalar} {v : ℚ} (number : s.number? = some v) :
    s.isFinite = true := by
  cases s with
  | float x =>
      simp only [number?, Option.ite_none_right_eq_some] at number
      exact number.1
  | _ => rfl

def Sql.Relation.Relates : Relation → ℚ → ℚ → Prop
  | .eq, a, b => a = b
  | .ge, a, b => a ≥ b
  | .le, a, b => a ≤ b
  | .gt, a, b => a > b
  | .lt, a, b => a < b

instance (relation : Relation) (a b : ℚ) : Decidable (relation.Relates a b) := by
  cases relation <;> unfold Relation.Relates <;> infer_instance

namespace Sql

theorem cast_one_pos : (0 : ℚ) < Binary64.one := by
  rw [Binary64.one_eq, Nat.cast_pow]
  positivity

namespace Datum

variable {a b : Datum} {x y : ℚ}

theorem units_of_number? (number : a.number? = some x) : x * Binary64.one = a.units := by
  have one := cast_one_pos
  cases a with
  | integer n =>
      cases number
      rw [units, Int.cast_mul, Int.cast_natCast]
  | real value =>
      simp only [number?, Option.ite_none_left_eq_some, Option.some.injEq] at number
      rw [← number.2, Binary64.value, div_mul_cancel₀ _ one.ne']
      rfl
  | _ => cases number

theorem order_of_number? (first : a.number? = some x) (second : b.number? = some y) :
    a.order b = compare a.units b.units := by
  have numeric {d : Datum} {z : ℚ} (number : d.number? = some z) : d.rank = 1 ∧ d.bytes = [] := by
    cases d with
    | integer n => exact ⟨rfl, rfl⟩
    | real value => exact ⟨rfl, rfl⟩
    | _ => cases number
  rw [order, (numeric first).1, (numeric second).1, (numeric first).2, (numeric second).2,
    Std.ReflOrd.compare_self, Std.ReflOrd.compare_self, Ordering.then_eq]
  rfl

theorem relates_iff_holds (relation : Relation) (first : a.number? = some x)
    (second : b.number? = some y) :
    relation.Relates x y ↔ relation.holds (a.order b) = true := by
  have le {c d : Datum} {u v : ℚ} (one : c.number? = some u) (other : d.number? = some v) :
      u ≤ v ↔ c.units ≤ d.units := by
    rw [← mul_le_mul_iff_left₀ cast_one_pos, units_of_number? one, units_of_number? other,
      Int.cast_le]
  rw [order_of_number? first second]
  cases relation with
  | eq =>
      rw [Relation.Relates, Relation.holds, Ordering.isEq_iff_eq_eq, Std.compare_eq_iff_eq,
        le_antisymm_iff, le_antisymm_iff, le first second, le second first]
  | ge => rw [Relation.Relates, Relation.holds, Std.isGE_compare, ge_iff_le, le second first]
  | le => rw [Relation.Relates, Relation.holds, Std.isLE_compare, le first second]
  | gt =>
      rw [Relation.Relates, Relation.holds, Ordering.isGT_iff_eq_gt, Std.compare_eq_gt, gt_iff_lt,
        ← not_le, ← not_le, le first second]
  | lt =>
      rw [Relation.Relates, Relation.holds, Ordering.isLT_iff_eq_lt, Std.compare_eq_lt, ← not_le,
        ← not_le, le second first]

/-- Numbers of either kind are related as they are. -/
theorem related_of_number? (relation : Relation) (first : a.number? = some x)
    (second : b.number? = some y) :
    related relation a b = .ofBool (decide (relation.Relates x y)) := by
  have stored {d : Datum} {z : ℚ} (number : d.number? = some z) : d ≠ null := by
    rintro rfl
    cases number
  have same : relation.holds (a.order b) = decide (relation.Relates x y) := by
    rw [Bool.eq_iff_iff, decide_eq_true_iff, relates_iff_holds relation first second]
  rw [related, if_neg (by simp [stored first, stored second]), same]

theorem toNumber_ofString_text {x : Binary64} (finite : x.isFinite = true) :
    (ofString x.text).toNumber = real x := by
  obtain ⟨n, read, fractional, number⟩ := Binary64.ofText?_text finite
  simp only [ofString, toNumber, String.toUTF8_eq_toByteArray, fromUTF8?_toByteArray,
    Option.bind_some, read]
  rw [ofNumeral, if_neg (by simp [fractional]), number]

/-- The canonical text of a number becomes that number. -/
theorem number?_toNumber_canonical {s : Scalar} {v : ℚ} (number : s.number? = some v) :
    (ofString s.canonical).toNumber.number? = some v := by
  have whole (n : Int64) : (ofString (toString n.toInt)).toNumber.number? = some (n.toInt : ℚ) := by
    rw [toNumber_ofString_toString, number?]
  cases s with
  | bool b =>
      rw [← number]
      cases b
      · exact whole 0
      · exact whole 1
  | int n => exact (whole n).trans number
  | float x =>
      simp only [Scalar.number?, Option.ite_none_right_eq_some, Option.some.injEq] at number
      have isNumber : x.isNaN = false := by
        have finite := number.1
        simp only [Binary64.isFinite, Binary64.isNaN, decide_eq_true_eq,
          decide_eq_false_iff_not] at finite ⊢
        omega
      rw [Scalar.canonical, toNumber_ofString_text number.1, number?, isNumber, ← number.2]
      rfl
  | text t => cases number
  | identity n => exact (whole n).trans number

end Datum

namespace Scope

variable {scope : Scope} {name : String} {column : Column} {cell : Datum} {held : ℚ}

theorem compare_number (found : scope.find? name = some (column, cell))
    (numeric : column.affinity.isNumeric = true) (number : cell.number? = some held)
    (relation : Relation) {s : Scalar} {v : ℚ} (stands : s.number? = some v) :
    scope.compare name relation (some s.canonical) =
      .ofBool (decide (relation.Relates held v)) := by
  rw [Scope.compare, Scope.affinity, Scope.value, found]
  show Datum.related relation cell (column.affinity.convert (.ofString s.canonical)) = _
  rw [Affinity.convert, if_pos numeric]
  exact Datum.related_of_number? relation number (Datum.number?_toNumber_canonical stands)

theorem inList_number (found : scope.find? name = some (column, cell))
    (numeric : column.affinity.isNumeric = true) (number : cell.number? = some held)
    {items : List Scalar} (stand : ∀ item ∈ items, item.number?.isSome = true) :
    scope.inList name (items.map (some ·.canonical)) =
      .ofBool (decide (∃ item ∈ items, item.number? = some held)) := by
  have each : (items.map (some ·.canonical)).map (scope.compare name .eq) =
      items.map fun item => Truth.ofBool (decide (item.number? = some held)) := by
    rw [List.map_map]
    refine List.map_congr_left fun item member => ?_
    obtain ⟨v, stands⟩ := Option.isSome_iff_exists.mp (stand item member)
    refine (compare_number found numeric number .eq stands).trans ?_
    simp [Relation.Relates, stands, eq_comm]
  have some : (items.any fun item => decide (item.number? = some held)) =
      decide (∃ item ∈ items, item.number? = some held) := by
    rw [Bool.eq_iff_iff, List.any_eq_true]
    simp
  rw [Scope.inList, each, Truth.any_ofBool, some]

end Scope

/-- The text of the clause, with its arguments in the placeholders, is read as the expression. -/
def Expr.ReadFrom (expr : Expr) (clause : Clause) : Prop :=
  ∃ tokens, Token.ofText? clause.selection = some tokens ∧
    Expr.ofTokens? (Token.bind tokens clause.arguments) = some expr

end Sql

namespace Condition

theorem toExpr_readFrom {condition : Condition} (formed : condition.WellFormed)
    (plain : ∀ name ∈ condition.names, IsPlainName name) :
    condition.toExpr.ReadFrom condition.clause := by
  have writes := Condition.clause_writes condition plain
  have bound := writes.binds [] []
  rw [List.append_nil, List.append_nil, Token.bind, List.append_nil] at bound
  have reads : Reads condition.tokens condition.toExpr := by
    have node := Node.reads (.condition condition) (by rw [Node.WellFormed]; exact formed)
    rwa [Node.tokens, Node.toExpr] at node
  have read := readOr_of_readAnd (readAnd_of_readNot
    (reads (5 * condition.tokens.length + 3) [] (by omega)) (by simp)) (by simp)
  rw [List.append_nil] at read
  refine ⟨_, writes.lexes, ?_⟩
  rw [bound, Expr.ofTokens?, depthFor, read]

theorem truth_toExpr {db : Database} {scope : Scope} {name : String} {op : Op} {value : Value}
    {holds : Bool} (plainly : (value.toExpr name op.comparison).truth db scope = .ofBool holds) :
    (Condition.mk name op value).toExpr.truth db scope = .ofBool (op.negated ^^ holds) := by
  rw [Condition.toExpr]
  cases op.negated with
  | true => rw [if_pos rfl, Expr.truth, plainly, Truth.not_ofBool, Bool.true_xor]
  | false => rw [if_neg (by simp), plainly, Bool.false_xor]

end Condition

/-- In a column of numbers, a condition with a number is certain of every number that is stored: it
holds exactly where the exact numbers are so related, or with a negated operator where they are not.
A membership asks whether one of the numbers is the stored one. -/
theorem Condition.truth_number (db : Database) {scope : Scope} {name : String} {column : Column}
    {cell : Datum} {held : ℚ} (found : scope.find? name = some (column, cell))
    (numeric : column.affinity.isNumeric = true) (number : cell.number? = some held) (op : Op) :
    (∀ (relation : Relation) (s : Scalar) (v : ℚ), op.comparison.relation? = some relation →
      s.number? = some v →
        (Condition.mk name op (.scalar s)).toExpr.truth db scope =
            .ofBool (op.negated ^^ decide (relation.Relates held v)) ∧
          (Text.isBlank name = false → IsPlainName name →
            (Condition.mk name op (.scalar s)).toExpr.ReadFrom
              (Condition.mk name op (.scalar s)).clause)) ∧
      ∀ items : List Scalar, op.comparison = .member →
        (∀ item ∈ items, item.number?.isSome = true) →
          (Condition.mk name op (.list items)).toExpr.truth db scope =
              .ofBool (op.negated ^^ decide (∃ item ∈ items, item.number? = some held)) ∧
            (Text.isBlank name = false → IsPlainName name →
              (Condition.mk name op (.list items)).toExpr.ReadFrom
                (Condition.mk name op (.list items)).clause) := by
  refine ⟨fun relation s v related stands => ⟨?_, fun shown plain => ?_⟩,
    fun items member stand => ⟨?_, fun shown plain => ?_⟩⟩
  · apply truth_toExpr
    rw [Value.toExpr, related]
    exact Scope.compare_number found numeric number relation stands
  · have single : op.isMembership = false := by
      rw [Op.isMembership, decide_eq_false_iff_not]
      intro membership
      rw [membership] at related
      cases related
    apply toExpr_readFrom
    · rw [WellFormed, Value.WellFormed]
      exact ⟨shown, single, Scalar.isFinite_of_number? stands⟩
    · simpa [names, Value.names] using plain
  · apply truth_toExpr
    rw [Value.toExpr]
    exact Scope.inList_number found numeric number stand
  · have finite : items.all Scalar.isFinite = true := by
      refine List.all_eq_true.mpr fun item among => ?_
      obtain ⟨v, stands⟩ := Option.isSome_iff_exists.mp (stand item among)
      exact Scalar.isFinite_of_number? stands
    apply toExpr_readFrom
    · rw [WellFormed, Value.WellFormed]
      exact ⟨shown, by simp [Op.isMembership, member], finite⟩
    · simpa [names, Value.names] using plain

private def balance : Column where
  name := "balance"
  affinity := .real

private def settled : Scope :=
  [⟨[balance], [.integer 0]⟩]

/-- The positive number that is next to zero. -/
private def grain : Binary64 :=
  ⟨1⟩

private theorem grain_value_pos : 0 < grain.value := by
  have units : grain.units = 1 := by decide
  rw [Binary64.value, units, Int.cast_one]
  exact div_pos one_pos cast_one_pos

theorem Condition.truth_number_settled :
    settled.find? "balance" = some (balance, .integer 0) ∧ balance.affinity.isNumeric = true ∧
      (Datum.integer 0).number? = some 0 ∧ (Scalar.float grain).number? = some grain.value ∧
      (∀ item ∈ [Scalar.bool true, .int 5], item.number?.isSome = true) ∧
      (Condition.mk "balance" (.plain .lt) (.scalar (.float grain))).toExpr.truth .empty settled =
        .yes ∧
      (Condition.mk "balance" ⟨.member, true⟩ (.list [.bool true, .int 5])).toExpr.truth .empty
        settled = .yes := by
  have found : settled.find? "balance" = some (balance, .integer 0) := by decide
  have number : (Datum.integer 0).number? = some 0 := by simp [Datum.number?]
  have finite : grain.isFinite = true := by decide
  have stands : (Scalar.float grain).number? = some grain.value := by
    rw [Scalar.number?, if_pos finite]
  have stand : ∀ item ∈ [Scalar.bool true, .int 5], item.number?.isSome = true := by
    simp [Scalar.number?]
  refine ⟨found, by decide, number, stands, stand, ?_, ?_⟩
  · have less : Relation.lt.Relates 0 grain.value := grain_value_pos
    rw [((truth_number .empty found (by decide) number (.plain .lt)).1 .lt (.float grain)
      grain.value rfl stands).1, decide_eq_true less]
    rfl
  · have absent : ¬ ∃ item ∈ [Scalar.bool true, .int 5], item.number? = some 0 := by
      simp [Scalar.number?]
    rw [((truth_number .empty found (by decide) number ⟨.member, true⟩).2 _ rfl stand).1,
      decide_eq_false absent]
    rfl

end Criteria
