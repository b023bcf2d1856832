import Criteria.Proofs.Asking
import Criteria.Proofs.Cutting
import Criteria.Proofs.Outline

/-!
Clauses stand for one tree only: from a clause whose names are words the tree can be had back, up to
its outline. A sequence ends where nothing joins on, a comparison is known by its opening.
-/

namespace Criteria

structure Value.Legible (op : Op) (value : Value) : Prop where
  formed : value.WellFormed op
  words : ∀ name ∈ value.names, IsWord name

structure Node.Legible (node : Node) : Prop where
  formed : node.WellFormed
  words : ∀ name ∈ node.names, IsWord name

theorem Entry.legible {entries : List Entry} (formed : Entry.AllWellFormed entries)
    (words : ∀ name ∈ Entry.names entries, IsWord name) :
    ∀ entry ∈ entries, entry.node.Legible := fun entry member =>
  ⟨(Entry.allWellFormed_iff entries).mp formed entry member, fun name within =>
    words name (Entry.mem_names.mpr ⟨entry, member, within⟩)⟩

/-- Where the clause begins a text, no other value does so with another operator or outline. -/
def Value.Recoverable (op : Op) (value : Value) : Prop :=
  ∀ (otherOp : Op) (other : Value) (u v : Clause), other.Legible otherOp →
    value.clause op.symbol ++ u = other.clause otherOp.symbol ++ v →
      op.comparison = otherOp.comparison ∧ value.outline = other.outline ∧ u = v

def Node.Recoverable (node : Node) : Prop :=
  ∀ (other : Node) (u v : Clause), other.Legible → node.clause ++ u = other.clause ++ v →
    node.outline = other.outline ∧ u = v

theorem Connector.phrase_mem (connector : Connector) :
    " " ++ connector.keyword ++ " " ∈ openers := by
  cases connector <;> decide

theorem Connector.phrase_injective {connector other : Connector}
    (same : " " ++ connector.keyword ++ " " = " " ++ other.keyword ++ " ") :
    connector = other := by
  revert same
  cases connector <;> cases other <;> decide

def Entry.clause (entry : Entry) : Clause :=
  .literal (" " ++ entry.connector.keyword ++ " ") ++ entry.node.clause

theorem Entry.followingClause_eq (entries : List Entry) :
    Entry.followingClause entries = Clause.sequence Entry.clause entries := by
  induction entries with
  | nil => rfl
  | cons entry rest induction =>
      obtain ⟨connector, node⟩ := entry
      rw [Entry.followingClause, induction]
      rfl

theorem Entry.cut_clause {entry other : Entry} {u v : Clause}
    (recoverable : entry.node.Recoverable) (legible : other.node.Legible)
    (same : entry.clause ++ u = other.clause ++ v) :
    entry.outline = other.outline ∧ u = v := by
  rw [Entry.clause, Entry.clause, Clause.append_assoc, Clause.append_assoc] at same
  obtain ⟨phrase, following⟩ := Clause.cut_phrase phrases_prefixFree
    (List.mem_append_left _ entry.connector.phrase_mem)
    (List.mem_append_left _ other.connector.phrase_mem) same
  obtain ⟨outline, rest⟩ := recoverable other.node u v legible following
  exact ⟨by rw [Entry.outline, Entry.outline, outline, Connector.phrase_injective phrase], rest⟩

theorem Entry.ne_clause {u : Clause} (ends : u.Ends) (entry : Entry) (rest : Clause) :
    u ≠ entry.clause ++ rest := by
  rw [Entry.clause, Clause.append_assoc]
  exact ends.ne_opener entry.connector.phrase_mem _

section

variable {entries others : List Entry} {u v : Clause}
  (recoverable : ∀ entry ∈ entries, entry.node.Recoverable)
  (legible : ∀ entry ∈ others, entry.node.Legible) (ends : u.Ends) (also : v.Ends)
include recoverable legible ends also

theorem Entry.cut_joinedClause (filled : entries ≠ []) (other : others ≠ [])
    (same : Entry.joinedClause entries ++ u = Entry.joinedClause others ++ v) :
    Entry.outlines entries = Entry.outlines others ∧ u = v := by
  obtain ⟨⟨_, node⟩, rest, rfl⟩ := List.exists_cons_of_ne_nil filled
  obtain ⟨⟨_, next⟩, more, rfl⟩ := List.exists_cons_of_ne_nil other
  obtain ⟨here, later⟩ := List.forall_mem_cons.mp recoverable
  obtain ⟨there, apart⟩ := List.forall_mem_cons.mp legible
  rw [Entry.joinedClause, Entry.joinedClause, Clause.append_assoc, Clause.append_assoc,
    Entry.followingClause_eq, Entry.followingClause_eq] at same
  obtain ⟨first, following⟩ := here next _ _ there same
  obtain ⟨outlines, remaining⟩ := Clause.cut_sequence
    (fun a among b beside _ _ => Entry.cut_clause (later a among) (apart b beside))
    (fun b _ => Entry.ne_clause ends b) (fun a _ => Entry.ne_clause also a) following
  exact ⟨by rw [Entry.outlines_cons, Entry.outlines_cons, first, outlines], remaining⟩

theorem Entry.cut_whereClause
    (same : Entry.whereClause entries ++ u = Entry.whereClause others ++ v) :
    Entry.outlines entries = Entry.outlines others ∧ u = v := by
  have opened (entry : Entry) (rest : List Entry) (w : Clause) :
      Entry.whereClause (entry :: rest) ++ w =
        .literal " WHERE " ++ (Entry.joinedClause (entry :: rest) ++ w) :=
    Clause.append_assoc _ _ _
  have opens : " WHERE " ∈ openers := by decide
  cases entries with
  | nil =>
      cases others with
      | nil => exact ⟨rfl, by simpa [Entry.whereClause] using same⟩
      | cons other others =>
          rw [opened] at same
          exact absurd (by simpa [Entry.whereClause] using same) (ends.ne_opener opens _)
  | cons entry entries =>
      cases others with
      | nil =>
          rw [opened] at same
          exact absurd (by simpa [Entry.whereClause] using same.symm) (also.ne_opener opens _)
      | cons other others =>
          rw [opened, opened] at same
          exact Entry.cut_joinedClause recoverable legible ends also (by simp) (by simp)
            (Clause.cut same)

end

namespace Value

/-- The ways in which a comparison goes on behind its column. -/
def openings : List String :=
  [" = ", " >= ", " <= ", " > ", " < ", " LIKE ", " IN(", " IN (SELECT "]

theorem openings_prefixFree : PrefixFree openings := by
  decide

def opening (comparison : Comparison) : Value → String
  | .scalar _ => " " ++ comparison.symbol ++ " "
  | .list _ => " IN("
  | .subquery _ _ => " IN (SELECT "

/-- The clause behind its opening, before whatever comes next. -/
def remainder (rest : Clause) : Value → Clause
  | .scalar s => .placeholder s.canonical ++ rest
  | .list items => .places items ++ (.literal ")" ++ rest)
  | .subquery table query =>
      .literal (query.projection.getD "*") ++ (.literal " FROM " ++ (.literal table ++
        (Entry.whereClause query.entries ++ closing query.orderings query.limit rest)))

theorem clause_append (comparison : Comparison) (value : Value) (rest : Clause) :
    value.clause comparison.symbol ++ rest =
      .literal (value.opening comparison) ++ value.remainder rest := by
  cases value with
  | scalar s => rw [clause, opening, remainder, Clause.append_assoc]
  | list items => rw [clause, opening, remainder, Clause.append_assoc, Clause.append_assoc]
  | subquery table query =>
      obtain ⟨entries, projection, orderings, limit⟩ := query
      rw [clause, opening, remainder, Query.selectClause, closing]
      apply Clause.ext <;> simp [Entry.whereClause]

theorem opening_mem {op : Op} {value : Value} (formed : value.WellFormed op) :
    value.opening op.comparison ∈ openings := by
  cases value with
  | scalar s =>
      rw [WellFormed, Op.isMembership] at formed
      rw [opening]
      revert formed
      cases op.comparison <;> simp [openings, Comparison.symbol]
  | list items => simp [opening, openings]
  | subquery table query => simp [opening, openings]

def SameKind : Value → Value → Prop
  | .scalar _, .scalar _ => True
  | .list _, .list _ => True
  | .subquery _ _, .subquery _ _ => True
  | _, _ => False

theorem opening_injective {op other : Op} {value second : Value} (formed : value.WellFormed op)
    (also : second.WellFormed other)
    (same : value.opening op.comparison = second.opening other.comparison) :
    op.comparison = other.comparison ∧ value.SameKind second := by
  obtain ⟨comparison, negated⟩ := op
  obtain ⟨otherComparison, otherNegated⟩ := other
  cases value <;> cases second <;> cases comparison <;> cases otherComparison <;>
    simp_all [WellFormed, Op.isMembership, opening, Comparison.symbol, SameKind]

variable {op otherOp : Op} {u v : Clause}

theorem cut_opening {value other : Value} (formed : value.WellFormed op)
    (also : other.WellFormed otherOp)
    (same : value.clause op.symbol ++ u = other.clause otherOp.symbol ++ v) :
    op.comparison = otherOp.comparison ∧ value.SameKind other ∧
      value.remainder u = other.remainder v := by
  rw [Op.symbol, Op.symbol, clause_append, clause_append] at same
  obtain ⟨opened, rest⟩ := Clause.cut_phrase openings_prefixFree (opening_mem formed)
    (opening_mem also) same
  obtain ⟨comparison, kind⟩ := opening_injective formed also opened
  exact ⟨comparison, kind, rest⟩

theorem recoverable_scalar {s : Scalar} (formed : (Value.scalar s).WellFormed op) :
    (Value.scalar s).Recoverable op := by
  intro otherOp other u v legible same
  obtain ⟨comparison, kind, rest⟩ := cut_opening formed legible.formed same
  cases other with
  | scalar t =>
      obtain ⟨text, rest⟩ := Clause.cut_placeholder rest
      exact ⟨comparison, by simp [outline, mapScalars, unled, Scalar.asText, text], rest⟩
  | list items => exact kind.elim
  | subquery table query => exact kind.elim

theorem recoverable_list {items : List Scalar} (formed : (Value.list items).WellFormed op) :
    (Value.list items).Recoverable op := by
  intro otherOp other u v legible same
  obtain ⟨comparison, kind, rest⟩ := cut_opening formed legible.formed same
  cases other with
  | scalar s => exact kind.elim
  | list others =>
      obtain ⟨texts, rest⟩ := Clause.cut_places rest
      have items : items.map Scalar.asText = others.map Scalar.asText := by
        have written := congrArg (List.map Scalar.text) texts
        rwa [List.map_map, List.map_map] at written
      exact ⟨comparison, by rw [outline, outline, mapScalars, mapScalars, items], rest⟩
  | subquery table query => exact kind.elim

theorem outline_subquery (table : String) (query : Query) :
    (Value.subquery table query).outline =
      .subquery table
        ⟨Entry.outlines query.entries, query.projection, query.orderings, query.limit⟩ := by
  cases query
  rfl

/-- The names that are written for a subquery itself. -/
structure Named (table column : String) (query : Query) : Prop where
  table : IsWord table
  projection : query.projection = some column
  column : IsWord column
  orderings : ∀ key ∈ query.orderings, IsWord key.column

theorem Legible.named {table : String} {query : Query}
    (legible : (Value.subquery table query).Legible op) : ∃ column, Named table column query := by
  obtain ⟨entries, projection, orderings, limit⟩ := query
  obtain ⟨column, rfl⟩ := Option.isSome_iff_exists.mp legible.formed.2.1
  have words := legible.words
  rw [names, Query.names] at words
  exact ⟨column, words table (by simp), rfl, words column (by simp), fun key member =>
    words key.column (by simp [List.mem_map_of_mem member])⟩

theorem Legible.entries {table : String} {query : Query}
    (legible : (Value.subquery table query).Legible op) :
    ∀ entry ∈ query.entries, entry.node.Legible := by
  obtain ⟨entries, projection, orderings, limit⟩ := query
  have words := legible.words
  rw [names, Query.names] at words
  exact Entry.legible legible.formed.2.2 fun name member => words name (by simp [member])

theorem recoverable_subquery {table : String} {query : Query}
    (legible : (Value.subquery table query).Legible op)
    (inner : ∀ entry ∈ query.entries, entry.node.Recoverable) :
    (Value.subquery table query).Recoverable op := by
  intro otherOp other u v readable same
  obtain ⟨comparison, kind, rest⟩ := cut_opening legible.formed readable.formed same
  cases other with
  | scalar s => exact kind.elim
  | list items => exact kind.elim
  | subquery otherTable other =>
      obtain ⟨column, named⟩ := legible.named
      obtain ⟨otherColumn, beside⟩ := readable.named
      have loose (q : Query) (w : Clause) :
          (Entry.whereClause q.entries ++ closing q.orderings q.limit w).StartsLoose :=
        (Entry.whereClause_startsLoose _).append (closing_startsLoose _ _ _)
      rw [remainder, remainder, named.projection, beside.projection] at rest
      obtain ⟨projection, source⟩ := Clause.cut_word named.column beside.column
        (by simp [Clause.StartsLoose]) (by simp [Clause.StartsLoose]) rest
      obtain ⟨table, filtered⟩ := Clause.cut_word named.table beside.table (loose query u)
        (loose other v) (Clause.cut source)
      obtain ⟨outlines, ordered⟩ := Entry.cut_whereClause inner readable.entries
        (closing_ends _ _ _) (closing_ends _ _ _) filtered
      obtain ⟨orderings, limit, rest⟩ := cut_closing named.orderings beside.orderings ordered
      refine ⟨comparison, ?_, rest⟩
      rw [outline_subquery, outline_subquery, table, outlines, named.projection,
        beside.projection, projection, orderings, limit]

/-- Behind the space no value and no parenthesis follows. -/
theorem text_clause {value : Value} (formed : value.WellFormed op) (u : Clause) :
    ∃ c rest, (value.clause op.symbol ++ u).selection.toList = ' ' :: c :: rest ∧
      c ≠ '?' ∧ c ≠ '(' := by
  have opened : ∀ opening ∈ openings, ∃ c rest,
      opening.toList = ' ' :: c :: rest ∧ c ≠ '?' ∧ c ≠ '(' := by
    simp [openings]
  obtain ⟨c, rest, text, place, parenthesis⟩ := opened _ (opening_mem formed)
  refine ⟨c, rest ++ (value.remainder u).selection.toList, ?_, place, parenthesis⟩
  rw [Op.symbol, clause_append]
  simp [text]

theorem clause_append_startsLoose {value : Value} (formed : value.WellFormed op) (u : Clause) :
    (value.clause op.symbol ++ u).StartsLoose := by
  obtain ⟨c, rest, text, _⟩ := text_clause formed u
  rw [Clause.StartsLoose, text]
  simp

section

variable {column : String} (word : IsWord column)
include word

theorem ne_keyword (keyword behind : String) {rest w : Clause} (other : IsWord keyword)
    (also : (Clause.literal behind ++ rest).StartsLoose) (loose : w.StartsLoose)
    (apart : .literal behind ++ rest ≠ w) :
    .literal (" " ++ (keyword ++ behind)) ++ rest ≠ .literal " " ++ (.literal column ++ w) := by
  intro same
  rw [Clause.literal_append, Clause.literal_append] at same
  exact apart (Clause.cut_word other word also loose (Clause.cut same)).2

theorem ne_sign (sign : String) {rest w : Clause}
    (foreign : sign.toList.head?.any (!isWordPart ·) = true) :
    .literal (" " ++ sign) ++ rest ≠ .literal " " ++ (.literal column ++ w) := by
  intro same
  obtain ⟨first, letters, name, letter⟩ := word.begins
  have texts := congrArg (fun d => d.selection.toList) same
  cases marks : sign.toList with
  | nil => simp [marks] at foreign
  | cons mark marked =>
      simp [marks, name] at texts
      simp [marks, texts, letter] at foreign

theorem ne_column {value other : Value} (formed : value.WellFormed op) :
    other.clause otherOp.symbol ++ v ≠
      .literal " " ++ (.literal column ++ (value.clause op.symbol ++ u)) := by
  obtain ⟨c, rest, text, place, parenthesis⟩ := text_clause formed u
  rw [Op.symbol, clause_append]
  generalize value.clause op.symbol ++ u = w at text
  have loose : w.StartsLoose := by
    simp [Clause.StartsLoose, text]
  have apart (d : Clause) (other : d.selection.toList ≠ ' ' :: c :: rest) : d ≠ w := by
    rintro rfl
    exact other text
  cases other with
  | scalar s =>
      cases otherOp.comparison with
      | eq => exact ne_sign word "= " rfl
      | ge => exact ne_sign word ">= " rfl
      | le => exact ne_sign word "<= " rfl
      | gt => exact ne_sign word "> " rfl
      | lt => exact ne_sign word "< " rfl
      | like =>
          exact ne_keyword word "LIKE" " " (by decide) (by simp [Clause.StartsLoose]) loose
            (apart _ (by simp [remainder, Ne.symm place]))
      | member =>
          exact ne_keyword word "IN" " " (by decide) (by simp [Clause.StartsLoose]) loose
            (apart _ (by simp [remainder, Ne.symm place]))
  | list items =>
      exact ne_keyword word "IN" "(" (by decide) (by simp [Clause.StartsLoose]) loose
        (apart _ (by simp))
  | subquery table query =>
      exact ne_keyword word "IN" " (SELECT " (by decide) (by simp [Clause.StartsLoose]) loose
        (apart _ (by simp [Ne.symm parenthesis]))

end

end Value

theorem Node.Legible.condition {column : String} {op : Op} {value : Value}
    (legible : (Node.condition ⟨column, op, value⟩).Legible) :
    IsWord column ∧ value.Legible op := by
  have words := legible.words
  rw [Node.names, Condition.names] at words
  exact ⟨words column (by simp), legible.formed.2, fun name member => words name (by simp [member])⟩

namespace Condition

variable {column otherColumn : String} {op otherOp : Op} {value other : Value} {u v : Clause}

theorem clause_plain (plain : op.negated = false) :
    (Condition.mk column op value).clause ++ u =
      .literal column ++ (value.clause op.symbol ++ u) := by
  apply Clause.ext <;> simp [clause, plain]

theorem clause_negated (negated : op.negated = true) :
    (Condition.mk column op value).clause ++ u =
      .literal "NOT" ++ (.literal " " ++ (.literal column ++ (value.clause op.symbol ++ u))) := by
  apply Clause.ext <;> simp [clause, negated]

theorem plain_ne_negated (word : IsWord column) (otherWord : IsWord otherColumn)
    (formed : value.WellFormed op) (also : other.WellFormed otherOp)
    (plain : op.negated = false) (negated : otherOp.negated = true) :
    (Condition.mk column op value).clause ++ u ≠
      (Condition.mk otherColumn otherOp other).clause ++ v := by
  intro same
  rw [clause_plain plain, clause_negated negated] at same
  obtain ⟨_, rest⟩ := Clause.cut_word word (by decide) (Value.clause_append_startsLoose formed u)
    (by simp [Clause.StartsLoose]) same
  exact Value.ne_column otherWord also rest

theorem cut_negation (word : IsWord column) (otherWord : IsWord otherColumn)
    (formed : value.WellFormed op) (also : other.WellFormed otherOp)
    (same : (Condition.mk column op value).clause ++ u =
      (Condition.mk otherColumn otherOp other).clause ++ v) :
    op.negated = otherOp.negated ∧ column = otherColumn ∧
      value.clause op.symbol ++ u = other.clause otherOp.symbol ++ v := by
  have loose := Value.clause_append_startsLoose formed u
  have beside := Value.clause_append_startsLoose also v
  cases here : op.negated with
  | false =>
      cases there : otherOp.negated with
      | false =>
          rw [clause_plain here, clause_plain there] at same
          exact ⟨rfl, Clause.cut_word word otherWord loose beside same⟩
      | true => exact absurd same (plain_ne_negated word otherWord formed also here there)
  | true =>
      cases there : otherOp.negated with
      | false => exact absurd same.symm (plain_ne_negated otherWord word also formed there here)
      | true =>
          rw [clause_negated here, clause_negated there] at same
          exact ⟨rfl, Clause.cut_word word otherWord loose beside (Clause.cut (Clause.cut same))⟩

end Condition

namespace Node

theorem outline_condition (column : String) (op : Op) (value : Value) :
    (Node.condition ⟨column, op, value⟩).outline = .condition ⟨column, op, value.outline⟩ := rfl

theorem outline_group (entries : List Entry) :
    (Node.group entries).outline = .group (Entry.outlines entries) := rfl

theorem condition_ne_group {condition : Condition} (legible : (Node.condition condition).Legible)
    (entries : List Entry) (u v : Clause) :
    (Node.condition condition).clause ++ u ≠ (Node.group entries).clause ++ v := by
  obtain ⟨column, op, value⟩ := condition
  obtain ⟨word, _⟩ := legible.condition
  obtain ⟨first, letters, name, letter⟩ := word.begins
  intro same
  have texts := congrArg (fun c => c.selection.toList.head?) same
  cases negated : op.negated with
  | false =>
      simp [clause, Condition.clause, negated, name] at texts
      exact absurd letter (by rw [texts]; decide)
  | true => simp [clause, Condition.clause, negated] at texts

theorem recoverable_condition {column : String} {op : Op} {value : Value}
    (legible : (Node.condition ⟨column, op, value⟩).Legible) (inner : value.Recoverable op) :
    (Node.condition ⟨column, op, value⟩).Recoverable := by
  intro other u v readable same
  obtain ⟨word, written⟩ := legible.condition
  cases other with
  | group entries => exact absurd same (condition_ne_group legible entries u v)
  | condition condition =>
      obtain ⟨otherColumn, otherOp, other⟩ := condition
      obtain ⟨otherWord, read⟩ := readable.condition
      obtain ⟨negated, rfl, rest⟩ := Condition.cut_negation word otherWord written.formed
        read.formed same
      obtain ⟨comparison, outline, rest⟩ := inner otherOp other u v read rest
      have operator : op = otherOp := by
        cases op
        cases otherOp
        exact congr (congrArg Op.mk comparison) negated
      exact ⟨by rw [outline_condition, outline_condition, operator, outline], rest⟩

theorem recoverable_group {entries : List Entry} (legible : (Node.group entries).Legible)
    (inner : ∀ entry ∈ entries, entry.node.Recoverable) : (Node.group entries).Recoverable := by
  intro other u v readable same
  cases other with
  | condition condition => exact absurd same.symm (condition_ne_group readable entries v u)
  | group others =>
      rw [clause, clause, Clause.append_assoc, Clause.append_assoc, Clause.append_assoc,
        Clause.append_assoc] at same
      obtain ⟨outlines, rest⟩ := Entry.cut_joinedClause inner
        (Entry.legible readable.formed.2 readable.words) (.closer (by decide) u)
        (.closer (by decide) v) legible.formed.1 readable.formed.1 (Clause.cut same)
      exact ⟨by rw [outline_group, outline_group, outlines], Clause.cut rest⟩

end Node

mutual
theorem Value.recoverable {op : Op} :
    ∀ {value : Value}, value.Legible op → value.Recoverable op
  | .scalar _, legible => Value.recoverable_scalar legible.formed
  | .list _, legible => Value.recoverable_list legible.formed
  | .subquery _ ⟨_, _, _, _⟩, legible =>
      Value.recoverable_subquery legible (Entry.recoverable legible.entries)

theorem Node.recoverable : ∀ {node : Node}, node.Legible → node.Recoverable
  | .condition ⟨_, _, _⟩, legible =>
      Node.recoverable_condition legible (Value.recoverable legible.condition.2)
  | .group _, legible =>
      Node.recoverable_group legible
        (Entry.recoverable (Entry.legible legible.formed.2 legible.words))

theorem Entry.recoverable :
    ∀ {entries : List Entry}, (∀ entry ∈ entries, entry.node.Legible) →
      ∀ entry ∈ entries, entry.node.Recoverable
  | [], _ => List.forall_mem_nil _
  | ⟨_, _⟩ :: _, legible =>
      List.forall_mem_cons.mpr ⟨Node.recoverable (List.forall_mem_cons.mp legible).1,
        Entry.recoverable (List.forall_mem_cons.mp legible).2⟩
end

theorem Entry.outlines_eq_of_joinedClause {entries others : List Entry}
    (legible : ∀ entry ∈ entries, entry.node.Legible)
    (also : ∀ entry ∈ others, entry.node.Legible)
    (same : Entry.joinedClause entries = Entry.joinedClause others) :
    Entry.outlines entries = Entry.outlines others := by
  have empty : entries = [] ↔ others = [] := by
    rw [← Entry.selection_eq_empty_iff, same, Entry.selection_eq_empty_iff]
  by_cases none : entries = []
  · rw [none, empty.mp none]
  · rw [← Clause.append_empty (Entry.joinedClause entries),
      ← Clause.append_empty (Entry.joinedClause others)] at same
    exact (Entry.cut_joinedClause (Entry.recoverable legible) also (.inl rfl) (.inl rfl) none
      (mt empty.mpr none) same).1

namespace Query

/-- The clause shows the outline of the tree and nothing else of it: the groups, the connectors, the
operators and columns, how many values there are, and all that is written of a subquery. -/
theorem compile_eq_iff_outlines {q r : Query} (reachable : q.Reachable) (also : r.Reachable)
    (words : ∀ name ∈ Entry.names q.entries, IsWord name)
    (others : ∀ name ∈ Entry.names r.entries, IsWord name) :
    q.compile = r.compile ↔ Entry.outlines q.entries = Entry.outlines r.entries := by
  constructor
  · exact Entry.outlines_eq_of_joinedClause
      (Entry.legible ((Query.wellFormed_iff q).mp reachable.wellFormed) words)
      (Entry.legible ((Query.wellFormed_iff r).mp also.wellFormed) others)
  · intro same
    rw [compile, compile, ← Entry.joinedClause_outlines, same, Entry.joinedClause_outlines]

private def sortedLists (column : String) : Query :=
  (((Query.empty.select "_id").push .or ⟨"name", .plain .like, .scalar (.text "a%")⟩).orderBy
    column .descending).withLimit 2

private def denied (connector : Connector) (done : Scalar) (column : String) : Query :=
  (Query.empty.push connector ⟨"NOT", .plain .eq, .scalar done⟩).pushGroup .or
    ((Query.empty.push connector ⟨"done", ⟨.eq, true⟩, .scalar done⟩).push .and
      ⟨"list_id", ⟨.member, true⟩, .subquery "lists" (sortedLists column)⟩)

private theorem denied_reachable (connector : Connector) {done : Scalar}
    (finite : done.isFinite = true) (column : String) :
    (denied connector done column).Reachable := by
  have made (name : String) (op : Op) (shown : Text.isBlank name = false)
      (single : op.isMembership = false) :
      Condition.make name op (.scalar done) = .ok ⟨name, op, .scalar done⟩ := by
    simp [Condition.make, Value.shapeFault?, Value.isFinite, shown, single, finite]
  have named := @Reachable.push _ "name" (.plain .like) (.scalar (.text "a%")) _ .or
    (.select "_id" .empty) (.scalar _) rfl
  have lists := (named.orderBy column .descending).withLimit 2
  have first := Reachable.empty.push connector (.scalar done) (made "NOT" (.plain .eq) rfl rfl)
  have flagged := Reachable.empty.push connector (.scalar done) (made "done" ⟨.eq, true⟩ rfl rfl)
  have listed := @Reachable.push _ "list_id" ⟨.member, true⟩
    (.subquery "lists" (sortedLists column)) _ .and flagged (.subquery "lists" lists) rfl
  exact first.pushGroup .or listed

private theorem denied_words (connector : Connector) (done : Scalar) {column : String}
    (word : IsWord column) :
    ∀ name ∈ Entry.names (denied connector done column).entries, IsWord name := by
  have others : ∀ name ∈ ["NOT", "done", "list_id", "lists", "_id", "name"], IsWord name := by
    decide
  have names : Entry.names (denied connector done column).entries =
      ["NOT", "done", "list_id", "lists", "_id", "name"] ++ [column] := rfl
  rw [names]
  exact List.forall_mem_append.mpr ⟨others, by simpa using word⟩

theorem compile_eq_iff_outlines_denied :
    (denied .and (.bool true) "rank").compile = (denied .or (.identity 1) "rank").compile ∧
      (denied .and (.bool true) "rank").compile ≠ (denied .and (.bool true) "name").compile := by
  have rank : IsWord "rank" := by decide
  have name : IsWord "name" := by decide
  have reachable (connector : Connector) (column : String) :
      (denied connector (.bool true) column).Reachable := denied_reachable connector rfl column
  constructor
  · exact (compile_eq_iff_outlines (reachable .and "rank") (denied_reachable .or rfl "rank")
      (denied_words _ _ rank) (denied_words _ _ rank)).mpr rfl
  · intro same
    have outlines := (compile_eq_iff_outlines (reachable .and "rank") (reachable .and "name")
      (denied_words _ _ rank) (denied_words _ _ name)).mp same
    exact absurd (congrArg Entry.names outlines) (by decide)

end Query

end Criteria
