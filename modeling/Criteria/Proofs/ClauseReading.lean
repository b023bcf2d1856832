import Criteria.Proofs.ClauseTokens
import Criteria.Proofs.Reachable

namespace Criteria

open Criteria.Sql

namespace Sql.Expr

instance : Inhabited Expr := ⟨.inList "" []⟩

/-- The run that begins with the first expression, and what an `OR` separates from it. -/
def firstRun (first : Expr) : List (Connector × Expr) → Expr × Option Expr
  | [] => (first, none)
  | (.and, next) :: rest =>
      let (run, later) := firstRun next rest
      (.and first run, later)
  | (.or, next) :: rest =>
      match firstRun next rest with
      | (run, none) => (first, some run)
      | (run, some later) => (first, some (.or run later))

def joined (first : Expr) (following : List (Connector × Expr)) : Expr :=
  match firstRun first following with
  | (run, none) => run
  | (run, some later) => .or run later

theorem firstRun_and (first next : Expr) (rest : List (Connector × Expr)) :
    firstRun first ((.and, next) :: rest) =
      (.and first (firstRun next rest).1, (firstRun next rest).2) := rfl

theorem firstRun_or (first next : Expr) (rest : List (Connector × Expr)) :
    firstRun first ((.or, next) :: rest) = (first, some (joined next rest)) := by
  rw [firstRun, joined]
  split <;> rfl

end Sql.Expr

def Comparison.relation? : Comparison → Option Relation
  | eq => some .eq
  | ge => some .ge
  | le => some .le
  | gt => some .gt
  | lt => some .lt
  | _ => none

mutual
/-- The comparison of a column with a value, without the negation of its operator. -/
def Value.toExpr (column : String) (comparison : Comparison) : Value → Expr
  | .scalar s =>
      match comparison.relation? with
      | some relation => .compare column relation (some s.canonical)
      | none => .like column (some s.canonical)
  | .list items => .inList column (items.map (some ·.canonical))
  | .subquery table query => .inSelect column (query.toSelect table)

def Query.toSelect (table : String) : Query → Select
  | ⟨entries, projection, orderings, limit⟩ =>
      ⟨projection.toList, table, Entry.toExpr? entries, orderings, limit.map UInt64.toNat⟩

def Condition.toExpr : Condition → Expr
  | ⟨column, op, value⟩ =>
      if op.negated then .not (value.toExpr column op.comparison)
      else value.toExpr column op.comparison

def Node.toExpr : Node → Expr
  | .condition condition => condition.toExpr
  | .group entries => (Entry.toExpr? entries).getD default

def Entry.toExpr? : List Entry → Option Expr
  | [] => none
  | ⟨_, node⟩ :: rest => some (.joined node.toExpr (Entry.followingExprs rest))

def Entry.followingExprs : List Entry → List (Connector × Expr)
  | [] => []
  | ⟨connector, node⟩ :: rest => (connector, node.toExpr) :: Entry.followingExprs rest
end

namespace Sql

theorem readOr_of_readAnd {depth : Nat} {tokens rest : List Token} {expr : Expr}
    (read : readAnd depth tokens = some (expr, rest))
    (ends : rest.head? ≠ some (.keyword .orWord)) :
    readOr (depth + 1) tokens = some (expr, rest) := by
  rw [readOr, read]
  simp only [Option.bind_eq_bind, Option.bind_some]
  split
  · simp at ends
  · rfl

theorem readOr_or {depth : Nat} {tokens rest others : List Token} {left right : Expr}
    (first : readAnd depth tokens = some (left, .keyword .orWord :: rest))
    (second : readOr depth rest = some (right, others)) :
    readOr (depth + 1) tokens = some (.or left right, others) := by
  rw [readOr, first]
  simp [second]

theorem readAnd_of_readNot {depth : Nat} {tokens rest : List Token} {expr : Expr}
    (read : readNot depth tokens = some (expr, rest))
    (ends : rest.head? ≠ some (.keyword .andWord)) :
    readAnd (depth + 1) tokens = some (expr, rest) := by
  rw [readAnd, read]
  simp only [Option.bind_eq_bind, Option.bind_some]
  split
  · simp at ends
  · rfl

theorem readAnd_and {depth : Nat} {tokens rest others : List Token} {left right : Expr}
    (first : readNot depth tokens = some (left, .keyword .andWord :: rest))
    (second : readAnd depth rest = some (right, others)) :
    readAnd (depth + 1) tokens = some (.and left right, others) := by
  rw [readAnd, first]
  simp [second]

theorem readNot_not {depth : Nat} {tokens rest : List Token} {expr : Expr}
    (read : readNot depth tokens = some (expr, rest)) :
    readNot (depth + 1) (.keyword .notWord :: tokens) = some (.not expr, rest) := by
  rw [readNot, read]
  rfl

theorem readNot_of_readPrimary {depth : Nat} {tokens rest : List Token} {expr : Expr}
    (read : readPrimary depth tokens = some (expr, rest))
    (starts : tokens.head? ≠ some (.keyword .notWord)) :
    readNot (depth + 1) tokens = some (expr, rest) := by
  rw [readNot]
  · exact read
  · rintro others rfl
    simp at starts

/-- The tokens are read as the expression, whatever follows them. -/
def Reads (tokens : List Token) (expr : Expr) : Prop :=
  ∀ depth rest, 5 * tokens.length ≤ depth + 2 → readNot depth (tokens ++ rest) = some (expr, rest)

structure Piece where
  connector : Connector
  tokens : List Token
  expr : Expr

namespace Piece

def allTokens (pieces : List Piece) : List Token :=
  pieces.flatMap fun piece => piece.connector.token :: piece.tokens

def exprs (pieces : List Piece) : List (Connector × Expr) :=
  pieces.map fun piece => (piece.connector, piece.expr)

def Ends (rest : List Token) : Prop :=
  ∀ connector : Connector, rest.head? ≠ some connector.token

structure RunRead (first : List Token) (expr : Expr) (pieces : List Piece)
    (later : List Token) : Prop where
  run : ∀ depth rest, 5 * (first ++ allTokens pieces).length ≤ depth + 1 → Ends rest →
    readAnd depth (first ++ allTokens pieces ++ rest) =
      some ((Expr.firstRun expr (exprs pieces)).1, later ++ rest)
  others : match (Expr.firstRun expr (exprs pieces)).2 with
    | none => later = []
    | some other => ∃ tokens, later = .keyword .orWord :: tokens ∧
        tokens.length < (allTokens pieces).length ∧
        ∀ depth rest, 5 * tokens.length ≤ depth → Ends rest →
          readOr depth (tokens ++ rest) = some (other, rest)

theorem RunRead.readOr {first later : List Token} {expr : Expr} {pieces : List Piece}
    (read : RunRead first expr pieces later) (filled : first ≠ []) :
    ∀ depth rest, 5 * (first ++ allTokens pieces).length ≤ depth → Ends rest →
      Sql.readOr depth (first ++ allTokens pieces ++ rest) =
        some (Expr.joined expr (exprs pieces), rest) := by
  intro depth rest enough ends
  have some : 0 < first.length := List.length_pos_iff.mpr filled
  obtain ⟨depth, rfl⟩ : ∃ n, depth = n + 1 := ⟨depth - 1, by simp at enough; omega⟩
  have run := read.run depth rest enough ends
  have others := read.others
  unfold Expr.joined
  cases split : Expr.firstRun expr (exprs pieces) with
  | mk left other =>
      rw [split] at run others
      cases other with
      | none =>
          subst others
          exact readOr_of_readAnd run (ends .or)
      | some right =>
          obtain ⟨tokens, rfl, shorter, reads⟩ := others
          refine readOr_or run (reads depth rest ?_ ends)
          simp at enough
          omega

theorem runRead (first : List Token) (expr : Expr) (pieces : List Piece) (filled : first ≠ [])
    (reads : Reads first expr)
    (all : ∀ piece ∈ pieces, piece.tokens ≠ [] ∧ Reads piece.tokens piece.expr) :
    ∃ later, RunRead first expr pieces later := by
  -- An `AND` passes the rest's own run on; behind an `OR` the whole rest is read anew.
  induction pieces generalizing first expr with
  | nil =>
      refine ⟨[], ⟨fun depth rest enough ends => ?_, rfl⟩⟩
      have some : 0 < first.length := List.length_pos_iff.mpr filled
      obtain ⟨depth, rfl⟩ : ∃ n, depth = n + 1 := ⟨depth - 1, by simp at enough; omega⟩
      have read := reads depth rest (by simp [allTokens] at enough; omega)
      simpa [allTokens, exprs, Expr.firstRun] using readAnd_of_readNot read (ends .and)
  | cons piece pieces induction =>
      obtain ⟨connector, tokens, next⟩ := piece
      have here := all ⟨connector, tokens, next⟩ (by simp)
      obtain ⟨later, read⟩ := induction tokens next here.1 here.2
        fun other member => all other (by simp [member])
      have written (rest : List Token) :
          first ++ allTokens (⟨connector, tokens, next⟩ :: pieces) ++ rest =
            first ++ connector.token :: (tokens ++ allTokens pieces ++ rest) := by
        simp [allTokens]
      cases connector with
      | and =>
          refine ⟨later, ⟨fun depth rest enough ends => ?_, ?_⟩⟩
          · rw [written]
            obtain ⟨depth, rfl⟩ : ∃ n, depth = n + 1 :=
              ⟨depth - 1, by simp [allTokens] at enough; omega⟩
            have left := reads depth (.keyword .andWord :: (tokens ++ allTokens pieces ++ rest))
              (by simp [allTokens] at enough; omega)
            have right := read.run depth rest (by simp [allTokens] at enough ⊢; omega) ends
            exact readAnd_and left right
          · have others := read.others
            simp only [exprs, List.map_cons, Expr.firstRun_and]
            change match (Expr.firstRun next (exprs pieces)).2 with
              | none => later = []
              | some other => _
            cases split : (Expr.firstRun next (exprs pieces)).2 with
            | none => simpa [split] using others
            | some other =>
                rw [split] at others
                obtain ⟨more, same, shorter, reads⟩ := others
                refine ⟨more, same, ?_, reads⟩
                simp only [allTokens, List.flatMap_cons, List.length_append] at shorter ⊢
                omega
      | or =>
          refine ⟨.keyword .orWord :: (tokens ++ allTokens pieces),
            ⟨fun depth rest enough ends => ?_, ?_⟩⟩
          · rw [written]
            obtain ⟨depth, rfl⟩ : ∃ n, depth = n + 1 :=
              ⟨depth - 1, by simp [allTokens] at enough; omega⟩
            have left := reads depth (.keyword .orWord :: (tokens ++ allTokens pieces ++ rest))
              (by simp [allTokens] at enough; omega)
            have stopped := readAnd_of_readNot left (by simp)
            simpa [exprs, Expr.firstRun_or, Connector.token] using stopped
          · simp only [exprs, List.map_cons, Expr.firstRun_or]
            refine ⟨tokens ++ allTokens pieces, rfl, ?_, read.readOr here.1⟩
            simp [allTokens]

end Piece

/-- The end of a statement or of the parentheses around it. -/
def Closes (rest : List Token) : Prop :=
  rest = [] ∨ ∃ others, rest = .rightParen :: others

theorem Closes.ends {rest : List Token} (closes : Closes rest) (orderings : List SortKey)
    (limit : Option Nat) : Piece.Ends (orderTokens orderings ++ limitTokens limit ++ rest) := by
  intro connector
  rcases closes with rfl | ⟨others, rfl⟩ <;> cases orderings <;> cases limit <;> cases connector <;>
    simp [orderTokens, limitTokens, Connector.token]

theorem readSelect_selectTokens {columns : List String} {table : String} {tokens : List Token}
    {condition : Option Expr} {orderings : List SortKey} {limit : Option Nat} {depth : Nat}
    {rest : List Token} (closes : Closes rest)
    (read : readCondition depth (tokens ++ (orderTokens orderings ++ limitTokens limit ++ rest)) =
      some (condition, orderTokens orderings ++ limitTokens limit ++ rest)) :
    readSelect (depth + 1) ((selectTokens columns table tokens orderings limit).tail ++ rest) =
      some (⟨columns, table, condition, orderings, limit⟩, rest) := by
  have named := readColumns_columnTokens columns (.keyword .fromWord :: .name table ::
    (tokens ++ (orderTokens orderings ++ limitTokens limit ++ rest))) (by simp)
  have ordered := readOrder_orderTokens orderings (limitTokens limit ++ rest)
    (by rcases closes with rfl | ⟨others, rfl⟩ <;> cases limit <;> simp [limitTokens])
    (by rcases closes with rfl | ⟨others, rfl⟩ <;> cases limit <;> simp [limitTokens])
  have limited := readLimit_limitTokens limit rest
    (by rcases closes with rfl | ⟨others, rfl⟩ <;> simp)
  have written : (selectTokens columns table tokens orderings limit).tail ++ rest =
      columnTokens columns ++ .keyword .fromWord :: .name table ::
        (tokens ++ (orderTokens orderings ++ limitTokens limit ++ rest)) := by
    simp [selectTokens]
  rw [written, readSelect, named]
  simp only [Option.bind_eq_bind, Option.bind_some]
  rw [read]
  simp only [Option.bind_some, List.append_assoc]
  rw [ordered]
  simp only [Option.bind_some]
  rw [limited]
  rfl

theorem readCondition_none {depth : Nat} {tokens : List Token} (enough : 0 < depth)
    (other : tokens.head? ≠ some (.keyword .whereWord)) :
    readCondition depth tokens = some (none, tokens) := by
  obtain ⟨depth, rfl⟩ : ∃ n, depth = n + 1 := ⟨depth - 1, by omega⟩
  rw [readCondition]
  rintro others rfl
  simp at other

theorem readCondition_where {depth : Nat} {tokens rest : List Token} {expr : Expr}
    (read : readOr depth tokens = some (expr, rest)) :
    readCondition (depth + 1) (.keyword .whereWord :: tokens) = some (some expr, rest) := by
  rw [readCondition, read]
  rfl

end Sql

theorem Node.tokens_ne_nil (node : Node) : node.tokens ≠ [] := by
  cases node with
  | condition condition =>
      obtain ⟨column, op, value⟩ := condition
      simp [Node.tokens, Condition.tokens]
  | group entries => simp [Node.tokens]

def Entry.pieces (entries : List Entry) : List Piece :=
  entries.map fun entry => ⟨entry.connector, entry.node.tokens, entry.node.toExpr⟩

theorem Entry.followingTokens_eq (entries : List Entry) :
    Entry.followingTokens entries = Piece.allTokens (Entry.pieces entries) := by
  induction entries with
  | nil => rfl
  | cons entry rest induction =>
      obtain ⟨connector, node⟩ := entry
      simp [Entry.followingTokens, induction, Entry.pieces, Piece.allTokens]

theorem Entry.followingExprs_eq (entries : List Entry) :
    Entry.followingExprs entries = Piece.exprs (Entry.pieces entries) := by
  induction entries with
  | nil => rfl
  | cons entry rest induction =>
      obtain ⟨connector, node⟩ := entry
      simp [Entry.followingExprs, induction, Entry.pieces, Piece.exprs]

theorem Entry.readOr_of_reads (entries : List Entry) (filled : entries ≠ [])
    (reads : ∀ entry ∈ entries, Reads entry.node.tokens entry.node.toExpr) :
    ∃ expr, Entry.toExpr? entries = some expr ∧
      ∀ depth rest, 5 * (Entry.tokens entries).length ≤ depth → Piece.Ends rest →
        readOr depth (Entry.tokens entries ++ rest) = some (expr, rest) := by
  cases entries with
  | nil => exact absurd rfl filled
  | cons entry rest =>
      obtain ⟨connector, node⟩ := entry
      obtain ⟨later, read⟩ := Piece.runRead node.tokens node.toExpr (Entry.pieces rest)
        node.tokens_ne_nil (reads ⟨connector, node⟩ (by simp)) fun piece member => by
          obtain ⟨entry, among, rfl⟩ := List.mem_map.mp member
          exact ⟨entry.node.tokens_ne_nil, reads entry (by simp [among])⟩
      refine ⟨_, rfl, ?_⟩
      rw [Entry.tokens, Entry.followingTokens_eq, Entry.followingExprs_eq]
      exact read.readOr node.tokens_ne_nil

theorem Entry.readSelect_of_reads {columns : List String} {table : String} {entries : List Entry}
    {orderings : List SortKey} {limit : Option Nat} {depth : Nat} {rest : List Token}
    (reads : ∀ entry ∈ entries, Reads entry.node.tokens entry.node.toExpr)
    (enough : 5 * (selectTokens columns table (Entry.whereTokens entries) orderings
      limit).length ≤ depth)
    (closes : Closes rest) :
    Sql.readSelect depth
        ((selectTokens columns table (Entry.whereTokens entries) orderings limit).tail ++ rest) =
      some (⟨columns, table, Entry.toExpr? entries, orderings, limit⟩, rest) := by
  obtain ⟨depth, rfl⟩ : ∃ n, depth = n + 3 :=
    ⟨depth - 3, by simp [selectTokens] at enough; omega⟩
  apply readSelect_selectTokens closes
  cases entries with
  | nil =>
      apply readCondition_none (by omega)
      rcases closes with rfl | ⟨others, rfl⟩ <;> cases orderings <;> cases limit <;>
        simp [Entry.whereTokens, orderTokens, limitTokens]
  | cons entry others =>
      obtain ⟨expr, same, read⟩ := Entry.readOr_of_reads (entry :: others) (by simp) reads
      rw [same]
      exact readCondition_where (read _ _
        (by simp [Entry.whereTokens, selectTokens] at enough; omega) (closes.ends orderings _))

theorem Sql.readPrimary_scalar {comparison : Comparison} (single : comparison ≠ .member)
    (column : String) (s : Scalar) (depth : Nat) (rest : List Token) :
    readPrimary (depth + 1)
        (.name column :: ((Value.scalar s).tokens comparison ++ rest)) =
      some ((Value.scalar s).toExpr column comparison, rest) := by
  cases comparison with
  | member => exact absurd rfl single
  | _ => rfl

theorem Sql.readPrimary_list (column : String) (items : List Scalar) (depth : Nat)
    (rest : List Token) :
    readPrimary (depth + 1)
        (.name column :: ((Value.list items).tokens .member ++ rest)) =
      some ((Value.list items).toExpr column .member, rest) := by
  cases items with
  | nil => rfl
  | cons item items =>
      have read := readPlaces_placeTokens ((item :: items).map (some ·.canonical)) rest
        (by simp)
      have written : (Value.list (item :: items)).tokens .member ++ rest =
          .keyword .inWord :: .leftParen ::
            (placeTokens ((item :: items).map (some ·.canonical)) ++ .rightParen :: rest) := by
        simp [Value.tokens]
      rw [written]
      cases items with
      | nil => rfl
      | cons next items =>
          simp only [placeTokens, List.map_cons, commaSeparated, List.cons_append,
            List.nil_append] at read ⊢
          rw [readPrimary]
          · rw [read]
            rfl
          all_goals
            intro more same
            simp at same

mutual
theorem Value.readPrimary (column : String) (op : Op) :
    ∀ value : Value, value.WellFormed op → ∀ depth rest,
      5 * (value.tokens op.comparison).length + 2 ≤ depth →
        Sql.readPrimary depth (.name column :: (value.tokens op.comparison ++ rest)) =
          some (value.toExpr column op.comparison, rest)
  | .scalar s, formed, depth, rest, enough => by
      rw [Value.WellFormed] at formed
      obtain ⟨depth, rfl⟩ : ∃ n, depth = n + 1 := ⟨depth - 1, by omega⟩
      exact readPrimary_scalar (by simpa [Op.isMembership] using formed.1) column s depth rest
  | .list items, formed, depth, rest, enough => by
      rw [Value.WellFormed] at formed
      obtain ⟨depth, rfl⟩ : ∃ n, depth = n + 1 := ⟨depth - 1, by omega⟩
      have member : op.comparison = .member := by simpa [Op.isMembership] using formed.1
      rw [member]
      exact readPrimary_list column items depth rest
  | .subquery table query, formed, depth, rest, enough => by
      rw [Value.WellFormed] at formed
      obtain ⟨depth, rfl⟩ : ∃ n, depth = n + 1 := ⟨depth - 1, by omega⟩
      have read := Query.readSelect table query formed.2.2 depth (.rightParen :: rest)
        (by simp [Value.tokens] at enough; omega) (.inr ⟨rest, rfl⟩)
      have written : (Value.subquery table query).tokens op.comparison ++ rest =
          .keyword .inWord :: .leftParen :: .keyword .selectWord ::
            ((query.tokens table).tail ++ .rightParen :: rest) := by
        obtain ⟨entries, projection, orderings, limit⟩ := query
        simp [Value.tokens, Query.tokens, selectTokens]
      rw [written, Sql.readPrimary, read]
      rfl

theorem Query.readSelect (table : String) :
    ∀ q : Query, q.WellFormed → ∀ depth rest,
      5 * (q.tokens table).length ≤ depth → Closes rest →
        Sql.readSelect depth ((q.tokens table).tail ++ rest) = some (q.toSelect table, rest)
  | ⟨entries, projection, orderings, limit⟩, formed, depth, rest, enough, closes => by
      rw [Query.WellFormed] at formed
      exact Entry.readSelect_of_reads (Entry.readsAll entries formed) enough closes

theorem Node.reads : ∀ node : Node, node.WellFormed → Reads node.tokens node.toExpr
  | .condition ⟨column, op, value⟩, formed => by
      rw [Node.WellFormed, Condition.WellFormed] at formed
      rw [Node.tokens, Node.toExpr, Condition.tokens, Condition.toExpr]
      intro depth rest enough
      cases negated : op.negated with
      | true =>
          rw [negated] at enough
          obtain ⟨depth, rfl⟩ : ∃ n, depth = n + 2 := ⟨depth - 2, by simp at enough; omega⟩
          have read := Value.readPrimary column op value formed.2 depth rest
            (by simp at enough; omega)
          exact readNot_not (readNot_of_readPrimary read (by simp))
      | false =>
          rw [negated] at enough
          obtain ⟨depth, rfl⟩ : ∃ n, depth = n + 1 := ⟨depth - 1, by simp at enough; omega⟩
          have read := Value.readPrimary column op value formed.2 depth rest
            (by simp at enough; omega)
          exact readNot_of_readPrimary read (by simp)
  | .group entries, formed => by
      rw [Node.WellFormed] at formed
      obtain ⟨expr, same, read⟩ := Entry.readOr_of_reads entries formed.1
        (Entry.readsAll entries formed.2)
      rw [Node.tokens, Node.toExpr, same]
      intro depth rest enough
      obtain ⟨depth, rfl⟩ : ∃ n, depth = n + 2 := ⟨depth - 2, by simp at enough; omega⟩
      have inner := read depth (.rightParen :: rest) (by simp at enough; omega)
        (by intro connector; cases connector <;> simp [Connector.token])
      refine readNot_of_readPrimary ?_ (by simp)
      have written : (.leftParen :: Entry.tokens entries ++ [.rightParen]) ++ rest =
          .leftParen :: (Entry.tokens entries ++ .rightParen :: rest) := by simp
      rw [written, Sql.readPrimary, inner]
      rfl

theorem Entry.readsAll :
    ∀ entries : List Entry, Entry.AllWellFormed entries →
      ∀ entry ∈ entries, Reads entry.node.tokens entry.node.toExpr
  | [], _ => by simp
  | ⟨_, node⟩ :: rest, formed => by
      rw [Entry.AllWellFormed] at formed
      intro entry member
      rcases List.mem_cons.mp member with rfl | member
      · exact Node.reads node formed.1
      · exact Entry.readsAll rest formed.2 entry member
end

end Criteria
