import Criteria.Row
import Mathlib.Data.List.Perm.Basic

namespace Criteria

/-- Pairs of different keys can be moved. -/
theorem lookup_of_perm {α β : Type} [BEq α] [LawfulBEq α] {pairs others : List (α × β)}
    (permuted : pairs.Perm others) (distinct : (pairs.map Prod.fst).Nodup) (key : α) :
    pairs.lookup key = others.lookup key := by
  induction permuted with
  | nil => rfl
  | cons pair _ induction =>
      obtain ⟨name, value⟩ := pair
      rw [List.map_cons, List.nodup_cons] at distinct
      rw [List.lookup_cons, List.lookup_cons, induction distinct.2]
  | swap first second rest =>
      obtain ⟨name, value⟩ := first
      obtain ⟨other, held⟩ := second
      have differ : other ≠ name := by simp_all
      by_cases here : key = other
      · have elsewhere : (key == name) = false := beq_eq_false_iff_ne.mpr (here ▸ differ)
        simp only [List.lookup_cons, elsewhere]
      · have elsewhere : (key == other) = false := beq_eq_false_iff_ne.mpr here
        simp only [List.lookup_cons, elsewhere]
  | trans permuted _ first second =>
      exact (first distinct).trans (second ((permuted.map Prod.fst).nodup_iff.mp distinct))

namespace Row

/-- The first column of that name has that cell. -/
def Leads (row : Row) (column : String) (cell : Cell) : Prop :=
  ∃ i : Nat, row.columns[i]? = some column ∧ (∀ j < i, row.columns[j]? ≠ some column) ∧
    row.cells[i]? = some cell

theorem idxOf?_eq_some_iff {columns : List String} {column : String} {i : Nat} :
    columns.idxOf? column = some i ↔
      columns[i]? = some column ∧ ∀ j < i, columns[j]? ≠ some column := by
  rw [List.idxOf?_eq_some_iff]
  constructor
  · rintro ⟨inside, here, before⟩
    refine ⟨by rw [List.getElem?_eq_getElem inside, here], fun j earlier there => ?_⟩
    obtain ⟨_, there⟩ := List.getElem?_eq_some_iff.mp there
    exact before j earlier there
  · rintro ⟨here, before⟩
    obtain ⟨inside, here⟩ := List.getElem?_eq_some_iff.mp here
    refine ⟨inside, here, fun j earlier there => before j earlier ?_⟩
    rw [List.getElem?_eq_getElem (Nat.lt_trans earlier inside), there]

theorem get?_eq_some_iff {row : Row} {column : String} {cell : Cell} :
    row.get? column = some cell ↔ row.Leads column cell := by
  rw [get?, Option.bind_eq_some_iff]
  exact exists_congr fun i => by rw [idxOf?_eq_some_iff, and_assoc]

theorem get?_eq_none_iff {row : Row} {column : String} :
    row.get? column = none ↔ ∀ cell, ¬ row.Leads column cell := by
  rw [Option.eq_none_iff_forall_ne_some]
  exact forall_congr' fun cell => not_congr get?_eq_some_iff

/-- The name leads to the same cell in both rows, or to none in either. -/
def AgreesAt (row other : Row) (column : String) : Prop :=
  ∀ cell, row.Leads column cell ↔ other.Leads column cell

theorem agreesAt_iff {row other : Row} {column : String} :
    row.AgreesAt other column ↔ row.get? column = other.get? column := by
  constructor
  · intro agrees
    exact Option.ext fun cell => by rw [get?_eq_some_iff, get?_eq_some_iff, agrees cell]
  · intro same cell
    rw [← get?_eq_some_iff, ← get?_eq_some_iff, same]

def prepend (pairs : List (String × Cell)) (row : Row) : Row :=
  ⟨pairs.map Prod.fst ++ row.columns, pairs.map Prod.snd ++ row.cells⟩

theorem get?_prepend (pairs : List (String × Cell)) (row : Row) (column : String) :
    (row.prepend pairs).get? column = (pairs.lookup column).or (row.get? column) := by
  induction pairs with
  | nil => rfl
  | cons pair rest induction =>
      obtain ⟨name, cell⟩ := pair
      simp only [get?, prepend, List.map_cons, List.cons_append] at induction ⊢
      by_cases same : name = column
      · simp [List.idxOf?_cons, same]
      · -- Behind a column of another name all places move by one, those of the cells as well.
        have other : (column == name) = false := beq_eq_false_iff_ne.mpr (Ne.symm same)
        rw [List.idxOf?_cons, if_neg (by simpa using same), Option.bind_map, List.lookup_cons,
          other, ← induction]
        rfl

theorem get?_ofPairs (pairs : List (String × Cell)) (column : String) :
    (ofPairs pairs).get? column = pairs.lookup column := by
  have whole := get?_prepend pairs ⟨[], []⟩ column
  simpa [prepend, ofPairs, get?] using whole

/-- Columns with different names can be moved, each with its cell. -/
theorem agreesAt_of_perm {block others : List (String × Cell)} (permuted : block.Perm others)
    (distinct : (block.map Prod.fst).Nodup) (before : List (String × Cell)) (row : Row)
    (column : String) :
    ((row.prepend block).prepend before).AgreesAt ((row.prepend others).prepend before) column := by
  rw [agreesAt_iff]
  simp only [get?_prepend, lookup_of_perm permuted distinct]

/-- Behind named cells another cell of the same name is out of reach. -/
theorem agreesAt_of_append {pairs more : List (String × Cell)} {column : String}
    (hidden : ∀ pair ∈ more, pair.1 = column → column ∈ pairs.map Prod.fst) :
    (ofPairs pairs).AgreesAt (ofPairs (pairs ++ more)) column := by
  rw [agreesAt_iff, get?_ofPairs, get?_ofPairs, List.lookup_append]
  cases found : pairs.lookup column with
  | some cell => rfl
  | none =>
      have absent := List.lookup_eq_none_iff.mp found
      have missing : more.lookup column = none := by
        refine List.lookup_eq_none_iff.mpr fun pair member => bne_iff_ne.mpr fun same => ?_
        obtain ⟨earlier, there, named⟩ := List.mem_map.mp (hidden pair member same.symm)
        exact bne_iff_ne.mp (absent earlier there) named.symm
      rw [missing]
      rfl

end Row

end Criteria
