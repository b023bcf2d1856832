import Criteria.Proofs.ClauseReading
import Criteria.Sql.Truth

/-!
The meaning of a tree of conditions and that of the text it is rendered to. A meaning is the truth
that follows from any truths of the single comparisons; these are numbered from left to right, so
two of them need not agree even where they are written alike.
-/

namespace Criteria

open Criteria.Sql

namespace Connector

/-- The longest runs of a sequence that are joined by `AND`. The first connector joins nothing. -/
def runs : List (Connector × α) → List (List α)
  | [] => []
  | [(_, a)] => [[a]]
  | (_, a) :: (.or, b) :: rest => [a] :: runs ((.or, b) :: rest)
  | (_, a) :: (.and, b) :: rest =>
      match runs ((.and, b) :: rest) with
      | run :: others => (a :: run) :: others
      | [] => [[a]]

end Connector

def Sql.Truth.all (truths : List Truth) : Truth :=
  truths.foldr and yes

/-- A sequence holds when one of its runs does. -/
def Connector.truth (sequence : List (Connector × Truth)) : Truth :=
  .any ((runs sequence).map Truth.all)

mutual
/-- The truth of a node whose comparisons have the truths from `start` on. -/
def Node.truthUnder (truths : Nat → Truth) (start : Nat) : Node → Truth
  | .condition condition =>
      if condition.op.negated then (truths start).not else truths start
  | .group entries => Connector.truth (Entry.truthsUnder truths start entries)

def Entry.truthsUnder (truths : Nat → Truth) (start : Nat) :
    List Entry → List (Connector × Truth)
  | [] => []
  | ⟨connector, node⟩ :: rest =>
      (connector, node.truthUnder truths start) ::
        Entry.truthsUnder truths (start + node.conditions.length) rest
end

def Entry.truthUnder (truths : Nat → Truth) (entries : List Entry) : Truth :=
  Connector.truth (Entry.truthsUnder truths 0 entries)

namespace Sql.Expr

def comparisons : Expr → List Expr
  | .compare column relation argument => [.compare column relation argument]
  | .like column argument => [.like column argument]
  | .inList column arguments => [.inList column arguments]
  | .inSelect column select => [.inSelect column select]
  | .not operand => operand.comparisons
  | .and left right => left.comparisons ++ right.comparisons
  | .or left right => left.comparisons ++ right.comparisons

def truthUnder (truths : Nat → Truth) (start : Nat) : Expr → Truth
  | .compare _ _ _ => truths start
  | .like _ _ => truths start
  | .inList _ _ => truths start
  | .inSelect _ _ => truths start
  | .not operand => (operand.truthUnder truths start).not
  | .and left right =>
      (left.truthUnder truths start).and
        (right.truthUnder truths (start + left.comparisons.length))
  | .or left right =>
      (left.truthUnder truths start).or
        (right.truthUnder truths (start + left.comparisons.length))

end Sql.Expr

mutual
/-- The expression has the meaning of the entries, and its comparisons are theirs one by one. -/
inductive Sql.Expr.Means : Expr → List Entry → Prop
  | intro {expr : Expr} {entries : List Entry}
      (truth : ∀ truths, expr.truthUnder truths 0 = Entry.truthUnder truths entries)
      (comparisons : Sql.Expr.CompareAll expr.comparisons (Entry.conditions entries)) :
      Sql.Expr.Means expr entries

inductive Sql.Expr.CompareAll : List Expr → List Condition → Prop
  | nil : Sql.Expr.CompareAll [] []
  | cons {expr : Expr} {condition : Condition} {exprs : List Expr} {conditions : List Condition}
      (first : Sql.Expr.Compares expr condition)
      (rest : Sql.Expr.CompareAll exprs conditions) :
      Sql.Expr.CompareAll (expr :: exprs) (condition :: conditions)

/-- The comparison of a condition, whether or not the condition negates it. -/
inductive Sql.Expr.Compares : Expr → Condition → Prop
  | relation {op : Op} {relation : Relation} (column : String) (s : Scalar)
      (base : op.comparison.relation? = some relation) :
      Sql.Expr.Compares (.compare column relation (some s.canonical)) ⟨column, op, .scalar s⟩
  | like {op : Op} (column : String) (s : Scalar) (base : op.comparison = .like) :
      Sql.Expr.Compares (.like column (some s.canonical)) ⟨column, op, .scalar s⟩
  | list {op : Op} (column : String) (items : List Scalar) (base : op.comparison = .member) :
      Sql.Expr.Compares (.inList column (items.map (some ·.canonical))) ⟨column, op, .list items⟩
  | subquery {op : Op} {condition : Option Expr} {entries : List Entry}
      (column table projection : String) (orderings : List SortKey) (limit : Option UInt64)
      (base : op.comparison = .member) (inner : Sql.Expr.MeansWhere condition entries) :
      Sql.Expr.Compares
        (.inSelect column ⟨[projection], table, condition, orderings, limit.map UInt64.toNat⟩)
        ⟨column, op, .subquery table ⟨entries, some projection, orderings, limit⟩⟩

/-- There is a condition exactly where there are entries. -/
inductive Sql.Expr.MeansWhere : Option Expr → List Entry → Prop
  | absent : Sql.Expr.MeansWhere none []
  | present {expr : Expr} {entries : List Entry} (filled : entries ≠ [])
      (means : Sql.Expr.Means expr entries) : Sql.Expr.MeansWhere (some expr) entries
end

@[simp] theorem Sql.Truth.and_yes (a : Truth) : a.and yes = a := by
  cases a <;> rfl

@[simp] theorem Sql.Truth.or_no (a : Truth) : a.or no = a := by
  cases a <;> rfl

namespace Sql.Expr

def truthsUnder (truths : Nat → Truth) (start : Nat) :
    List (Connector × Expr) → List (Connector × Truth)
  | [] => []
  | (connector, expr) :: rest =>
      (connector, expr.truthUnder truths start) ::
        truthsUnder truths (start + expr.comparisons.length) rest

theorem truthUnder_joined {truths : Nat → Truth} {start : Nat} {first : Expr}
    {following : List (Connector × Expr)} {run : List Truth} {others : List (List Truth)}
    (held : (firstRun first following).1.truthUnder truths start = Truth.all run)
    (rest : match (firstRun first following).2 with
      | none => others = []
      | some later =>
          later.truthUnder truths (start + (firstRun first following).1.comparisons.length) =
            Truth.any (others.map Truth.all)) :
    (joined first following).truthUnder truths start =
      Truth.any ((run :: others).map Truth.all) := by
  unfold joined
  cases split : firstRun first following with
  | mk left later =>
      rw [split] at held rest
      cases later with
      | none =>
          subst rest
          simp [held, Truth.any]
      | some right => simp_all [truthUnder, Truth.any]

/-- The expression of a sequence falls apart where the sequence does. -/
theorem runs_firstRun (connector : Connector) (truths : Nat → Truth) (start : Nat) (first : Expr)
    (following : List (Connector × Expr)) :
    ∃ run others,
      Connector.runs ((connector, first.truthUnder truths start) ::
          truthsUnder truths (start + first.comparisons.length) following) = run :: others ∧
      (firstRun first following).1.truthUnder truths start = Truth.all run ∧
      match (firstRun first following).2 with
      | none => others = []
      | some later =>
          later.truthUnder truths (start + (firstRun first following).1.comparisons.length) =
            Truth.any (others.map Truth.all) := by
  -- On the rest of the sequence: an `AND` lengthens its first run, an `OR` opens one before it.
  induction following generalizing connector start first with
  | nil => exact ⟨[first.truthUnder truths start], [], rfl, by simp [firstRun, Truth.all], rfl⟩
  | cons pair rest induction =>
      obtain ⟨joint, next⟩ := pair
      obtain ⟨run, others, split, held, later⟩ :=
        induction joint (start + first.comparisons.length) next
      cases joint with
      | and =>
          refine ⟨first.truthUnder truths start :: run, others, ?_, ?_, ?_⟩
          · simp [truthsUnder, Connector.runs, split]
          · simp [firstRun_and, truthUnder, held, Truth.all]
          · simpa [firstRun_and, comparisons, Nat.add_assoc] using later
      | or =>
          refine ⟨[first.truthUnder truths start], run :: others, ?_, ?_, ?_⟩
          · simp [truthsUnder, Connector.runs, split]
          · simp [firstRun_or, Truth.all]
          · simpa [firstRun_or] using truthUnder_joined held later

theorem comparisons_firstRun (first : Expr) (following : List (Connector × Expr)) :
    (firstRun first following).1.comparisons ++
        ((firstRun first following).2.map comparisons).getD [] =
      first.comparisons ++ following.flatMap fun pair => pair.2.comparisons := by
  induction following generalizing first with
  | nil => simp [firstRun]
  | cons pair rest induction =>
      obtain ⟨joint, next⟩ := pair
      have later := induction next
      cases joint with
      | and => simp [firstRun_and, comparisons, later]
      | or =>
          rw [firstRun_or, List.flatMap_cons, ← later]
          unfold joined
          cases split : firstRun next rest with
          | mk run other => cases other <;> simp [comparisons]

theorem comparisons_joined (first : Expr) (following : List (Connector × Expr)) :
    (joined first following).comparisons =
      first.comparisons ++ following.flatMap fun pair => pair.2.comparisons := by
  rw [← comparisons_firstRun]
  unfold joined
  cases split : firstRun first following with
  | mk run other => cases other <;> simp [comparisons]

theorem CompareAll.append {exprs others : List Expr} {conditions more : List Condition}
    (first : CompareAll exprs conditions) (second : CompareAll others more) :
    CompareAll (exprs ++ others) (conditions ++ more) := by
  induction exprs generalizing conditions with
  | nil =>
      cases first
      exact second
  | cons expr exprs induction =>
      cases first with
      | cons compares rest => exact .cons compares (induction rest)

theorem CompareAll.length_eq {exprs : List Expr} {conditions : List Condition}
    (compare : CompareAll exprs conditions) : exprs.length = conditions.length := by
  induction exprs generalizing conditions with
  | nil =>
      cases compare
      rfl
  | cons expr exprs induction =>
      cases compare with
      | cons compares rest => simp [induction rest]

end Sql.Expr

theorem Value.comparisons_toExpr (column : String) (comparison : Comparison) (value : Value) :
    (value.toExpr column comparison).comparisons = [value.toExpr column comparison] := by
  cases value with
  | scalar s => cases comparison <;> rfl
  | list items => rfl
  | subquery table query => rfl

theorem Value.truthUnder_toExpr (truths : Nat → Truth) (start : Nat) (column : String)
    (comparison : Comparison) (value : Value) :
    (value.toExpr column comparison).truthUnder truths start = truths start := by
  cases value with
  | scalar s => cases comparison <;> rfl
  | list items => rfl
  | subquery table query => rfl

structure Node.Means (node : Node) (expr : Expr) : Prop where
  truth : ∀ truths start, expr.truthUnder truths start = node.truthUnder truths start
  comparisons : Sql.Expr.CompareAll expr.comparisons node.conditions

theorem Entry.truthsUnder_followingExprs (truths : Nat → Truth) (start : Nat)
    (entries : List Entry) (means : ∀ entry ∈ entries, entry.node.Means entry.node.toExpr) :
    Sql.Expr.truthsUnder truths start (Entry.followingExprs entries) =
      Entry.truthsUnder truths start entries := by
  induction entries generalizing start with
  | nil => rfl
  | cons entry rest induction =>
      obtain ⟨connector, node⟩ := entry
      have here := means ⟨connector, node⟩ (by simp)
      have later := induction (start + node.conditions.length)
        fun entry member => means entry (by simp [member])
      rw [Entry.followingExprs, Sql.Expr.truthsUnder, Entry.truthsUnder, here.truth,
        here.comparisons.length_eq, later]

theorem Entry.compareAll_followingExprs (entries : List Entry)
    (means : ∀ entry ∈ entries, entry.node.Means entry.node.toExpr) :
    Sql.Expr.CompareAll ((Entry.followingExprs entries).flatMap fun pair => pair.2.comparisons)
      (Entry.conditions entries) := by
  induction entries with
  | nil => exact .nil
  | cons entry rest induction =>
      obtain ⟨connector, node⟩ := entry
      rw [Entry.followingExprs, Entry.conditions, List.flatMap_cons]
      exact (means ⟨connector, node⟩ (by simp)).comparisons.append
        (induction fun entry member => means entry (by simp [member]))

theorem Entry.means_of_nodes {entries : List Entry} (filled : entries ≠ [])
    (means : ∀ entry ∈ entries, entry.node.Means entry.node.toExpr) :
    ∃ expr, Entry.toExpr? entries = some expr ∧ (Node.group entries).Means expr := by
  cases entries with
  | nil => exact absurd rfl filled
  | cons entry rest =>
      obtain ⟨connector, node⟩ := entry
      have here := means ⟨connector, node⟩ (by simp)
      have later : ∀ entry ∈ rest, entry.node.Means entry.node.toExpr :=
        fun entry member => means entry (by simp [member])
      refine ⟨_, rfl, fun truths start => ?_, ?_⟩
      · obtain ⟨run, others, split, held, remaining⟩ := Sql.Expr.runs_firstRun connector truths
          start node.toExpr (Entry.followingExprs rest)
        rw [Sql.Expr.truthUnder_joined held remaining, ← split,
          Entry.truthsUnder_followingExprs _ _ rest later, here.truth, here.comparisons.length_eq]
        rfl
      · rw [Sql.Expr.comparisons_joined]
        exact here.comparisons.append (Entry.compareAll_followingExprs rest later)

mutual
theorem Value.compares (column : String) (op : Op) :
    ∀ value : Value, value.WellFormed op →
      Sql.Expr.Compares (value.toExpr column op.comparison) ⟨column, op, value⟩
  | .scalar s, formed => by
      rw [Value.WellFormed] at formed
      rw [Value.toExpr]
      cases base : op.comparison with
      | member => simp [Op.isMembership, base] at formed
      | like => exact .like column s base
      | _ => exact .relation column s (by rw [base]; rfl)
  | .list items, formed => by
      rw [Value.WellFormed] at formed
      rw [Value.toExpr]
      exact .list column items (by simpa [Op.isMembership] using formed.1)
  | .subquery table ⟨entries, projection, orderings, limit⟩, formed => by
      rw [Value.WellFormed, Query.WellFormed] at formed
      obtain ⟨member, projected, inner⟩ := formed
      rw [Value.toExpr, Query.toSelect]
      cases projection with
      | none => simp at projected
      | some projection =>
          exact .subquery column table projection orderings limit
            (by simpa [Op.isMembership] using member) (Entry.meansWhere entries inner)

theorem Node.means : ∀ node : Node, node.WellFormed → node.Means node.toExpr
  | .condition ⟨column, op, value⟩, formed => by
      rw [Node.WellFormed, Condition.WellFormed] at formed
      have compares := Value.compares column op value formed.2
      constructor
      · intro truths start
        rw [Node.toExpr, Condition.toExpr, Node.truthUnder]
        split
        · rw [Sql.Expr.truthUnder, Value.truthUnder_toExpr]
        · rw [Value.truthUnder_toExpr]
      · rw [Node.toExpr, Condition.toExpr, Node.conditions]
        split
        · rw [Sql.Expr.comparisons, Value.comparisons_toExpr]
          exact .cons compares .nil
        · rw [Value.comparisons_toExpr]
          exact .cons compares .nil
  | .group entries, formed => by
      rw [Node.WellFormed] at formed
      obtain ⟨expr, same, means⟩ :=
        Entry.means_of_nodes formed.1 (Entry.meansAll entries formed.2)
      rw [Node.toExpr, same]
      exact means

theorem Entry.meansAll :
    ∀ entries : List Entry, Entry.AllWellFormed entries →
      ∀ entry ∈ entries, entry.node.Means entry.node.toExpr
  | [], _ => by simp
  | ⟨_, node⟩ :: rest, formed => by
      rw [Entry.AllWellFormed] at formed
      intro entry member
      rcases List.mem_cons.mp member with rfl | member
      · exact Node.means node formed.1
      · exact Entry.meansAll rest formed.2 entry member

theorem Entry.meansWhere :
    ∀ entries : List Entry, Entry.AllWellFormed entries →
      Sql.Expr.MeansWhere (Entry.toExpr? entries) entries
  | [], _ => .absent
  | entry :: rest, formed => by
      have filled : entry :: rest ≠ [] := by simp
      obtain ⟨expr, same, means⟩ :=
        Entry.means_of_nodes filled (Entry.meansAll (entry :: rest) formed)
      rw [same]
      exact .present filled ⟨fun truths => means.truth truths 0, means.comparisons⟩
end

namespace Query

/-- The text of a clause, with the arguments in its placeholders, is read as the meaning of the
query that it was compiled from. -/
theorem compile_means (q : Query) (reachable : q.Reachable) (filled : q.isEmpty = false)
    (plain : ∀ name ∈ Entry.names q.entries, IsPlainName name) :
    ∃ tokens expr, Token.ofText? q.compile.selection = some tokens ∧
      Expr.ofTokens? (Token.bind tokens q.compile.arguments) = some expr ∧
      expr.Means q.entries := by
  have formed := (Query.wellFormed_iff q).mp reachable.wellFormed
  have filled : q.entries ≠ [] := by simpa [Query.isEmpty] using filled
  have writes := Entry.joinedClause_writes q.entries plain
  have bound : Token.bind ((Entry.tokens q.entries).map Token.unbound) q.compile.arguments =
      Entry.tokens q.entries := by
    simpa [Token.bind, Query.compile] using writes.binds [] []
  obtain ⟨expr, same, read⟩ :=
    Entry.readOr_of_reads q.entries filled (Entry.readsAll q.entries formed)
  have whole := read (depthFor (Entry.tokens q.entries)) [] (by simp [depthFor]) (by
    intro connector
    simp)
  refine ⟨_, expr, writes.lexes, ?_, ?_⟩
  · rw [bound, Expr.ofTokens?]
    rw [List.append_nil] at whole
    rw [whole]
  · have means := Entry.meansWhere q.entries formed
    rw [same] at means
    cases means with
    | present _ means => exact means

private def workLists : Query :=
  ((Query.empty.select "_id").push .and ⟨"name", .plain .member, .list [.text "Work"]⟩).orderBy
    "_id" .descending

private def nestedQuery : Query :=
  ((Query.empty.push .or ⟨"done", .plain .eq, .scalar (.bool false)⟩).push .or
      ⟨"priority", ⟨.ge, true⟩, .scalar (.int 2)⟩).pushGroup .and
    ((Query.empty.push .and ⟨"name", .plain .like, .scalar (.text "%bank%")⟩).push .or
      ⟨"list_id", ⟨.member, true⟩, .subquery "lists" workLists⟩)

private theorem nestedQuery_reachable : nestedQuery.Reachable := by
  have lists : workLists.Reachable :=
    .orderBy "_id" .descending
      (@Reachable.push _ "name" (.plain .member) (.list [.text "Work"]) _ .and
        (.select "_id" .empty) (.list _) rfl)
  have done := @Reachable.push _ "done" (.plain .eq) (.scalar (.bool false)) _ .or .empty
    (.scalar _) rfl
  have urgent := @Reachable.push _ "priority" ⟨.ge, true⟩ (.scalar (.int 2)) _ .or done
    (.scalar _) rfl
  have named := @Reachable.push _ "name" (.plain .like) (.scalar (.text "%bank%")) _ .and .empty
    (.scalar _) rfl
  have listed := @Reachable.push _ "list_id" ⟨.member, true⟩ (.subquery "lists" workLists) _ .or
    named (.subquery "lists" lists) rfl
  exact urgent.pushGroup .and listed

theorem compile_means_nested :
    nestedQuery.Reachable ∧ nestedQuery.isEmpty = false ∧
      (∀ name ∈ Entry.names nestedQuery.entries, IsPlainName name) ∧
      ∃ tokens expr, Token.ofText? nestedQuery.compile.selection = some tokens ∧
        Expr.ofTokens? (Token.bind tokens nestedQuery.compile.arguments) = some expr ∧
        expr.Means nestedQuery.entries := by
  have plain : ∀ name ∈ Entry.names nestedQuery.entries, IsPlainName name := by decide
  have means := compile_means nestedQuery nestedQuery_reachable rfl plain
  exact ⟨nestedQuery_reachable, rfl, plain, means⟩

end Query

end Criteria
