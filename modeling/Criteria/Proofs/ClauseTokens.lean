import Criteria.Clause
import Criteria.Proofs.Parts
import Criteria.Proofs.Sql.Lexing
import Criteria.Proofs.Sql.Reading

namespace Criteria

open Criteria.Sql

def Comparison.token : Comparison → Token
  | eq => .relation .eq
  | ge => .relation .ge
  | le => .relation .le
  | gt => .relation .gt
  | lt => .relation .lt
  | like => .keyword .likeWord
  | member => .keyword .inWord

def Connector.token : Connector → Token
  | and => .keyword .andWord
  | or => .keyword .orWord

mutual
def Value.tokens (comparison : Comparison) : Value → List Token
  | .scalar s => [comparison.token, .placeholder (some s.canonical)]
  | .list items =>
      .keyword .inWord :: .leftParen :: placeTokens (items.map (some ·.canonical)) ++
        [.rightParen]
  | .subquery table query =>
      .keyword .inWord :: .leftParen :: query.tokens table ++ [.rightParen]

def Query.tokens (table : String) : Query → List Token
  | ⟨entries, projection, orderings, limit⟩ =>
      selectTokens projection.toList table
        (if entries.isEmpty then [] else .keyword .whereWord :: Entry.tokens entries)
        orderings (limit.map UInt64.toNat)

def Condition.tokens : Condition → List Token
  | ⟨column, op, value⟩ =>
      (if op.negated then [.keyword .notWord] else []) ++
        .name column :: value.tokens op.comparison

def Node.tokens : Node → List Token
  | .condition condition => condition.tokens
  | .group entries => .leftParen :: Entry.tokens entries ++ [.rightParen]

def Entry.tokens : List Entry → List Token
  | [] => []
  | ⟨_, node⟩ :: rest => node.tokens ++ Entry.followingTokens rest

def Entry.followingTokens : List Entry → List Token
  | [] => []
  | ⟨connector, node⟩ :: rest =>
      connector.token :: node.tokens ++ Entry.followingTokens rest
end

def Sql.Token.unbound : Token → Token
  | placeholder _ => placeholder none
  | token => token

/-- The text is cut into the tokens, and the arguments fill their placeholders up. -/
structure Clause.Writes (c : Clause) (tokens : List Token) : Prop where
  lexes : Lexes c.selection.toList (tokens.map Token.unbound)
  counts : (tokens.map Token.unbound).countP Token.isPlaceholder = c.arguments.length
  binds : ∀ more arguments,
    Token.bind (tokens.map Token.unbound ++ more) (c.arguments ++ arguments) =
    tokens ++ Token.bind more arguments

namespace Clause.Writes

theorem empty : Clause.empty.Writes [] where
  lexes := Lexes.nil
  counts := rfl
  binds _ _ := rfl

theorem literal {text : String} {tokens : List Token} (lexes : Lexes text.toList tokens)
    (fixed : ∀ token ∈ tokens, token.isPlaceholder = false) :
    (Clause.literal text).Writes tokens := by
  have unbound : tokens.map Token.unbound = tokens := by
    refine (List.map_congr_left fun token member => ?_).trans (List.map_id tokens)
    have plain := fixed token member
    cases token with
    | placeholder argument => simp [Token.isPlaceholder] at plain
    | _ => rfl
  refine ⟨by simpa [unbound] using lexes, ?_, fun more arguments => ?_⟩
  · rw [unbound, List.countP_eq_zero.mpr fun token member => by simp [fixed token member]]
    rfl
  rw [unbound, Clause.arguments_literal, List.nil_append]
  clear lexes unbound
  induction tokens with
  | nil => rfl
  | cons token rest induction =>
      have plain := fixed token (by simp)
      have later := induction fun other member => fixed other (by simp [member])
      cases token with
      | placeholder argument => simp [Token.isPlaceholder] at plain
      | _ => simpa [Token.bind] using later

theorem placeholder (argument : String) :
    (Clause.placeholder argument).Writes [.placeholder (some argument)] where
  lexes := by
    rw [Lexes, Clause.selection_placeholder]
    rfl
  counts := rfl
  binds _ _ := rfl

theorem append {c d : Clause} {tokens others : List Token} (left : c.Writes tokens)
    (right : d.Writes others) (apart : Apart c.selection.toList d.selection.toList) :
    (c ++ d).Writes (tokens ++ others) where
  lexes := by
    simpa using left.lexes.append right.lexes apart
  counts := by
    rw [List.map_append, List.countP_append, left.counts, right.counts, Clause.arguments_append,
      List.length_append]
  binds more arguments := by
    rw [Clause.arguments_append, List.map_append, List.append_assoc, List.append_assoc, left.binds,
      right.binds, List.append_assoc]

end Clause.Writes

def Clause.StartsLoose (c : Clause) : Prop :=
  ∀ d ∈ c.selection.toList.head?, isLoose d = true

theorem Clause.StartsLoose.apart {d : Clause} (loose : d.StartsLoose) (c : Clause) :
    Apart c.selection.toList d.selection.toList :=
  Apart.of_head _ loose

theorem Clause.StartsLoose.literal {text : String}
    (loose : ∀ d ∈ text.toList.head?, isLoose d = true) : (Clause.literal text).StartsLoose :=
  loose

theorem Clause.StartsLoose.append {c d : Clause} (first : c.StartsLoose) (second : d.StartsLoose) :
    (c ++ d).StartsLoose := by
  intro e member
  rw [Clause.selection_append, String.toList_append, List.head?_append] at member
  cases heads : c.selection.toList.head? with
  | none => exact second e (by simpa [heads] using member)
  | some head => exact first e (by simpa [heads] using member)

namespace Sql

theorem Lexes.commaSeparated (text : α → String) (tokens : α → List Token) (items : List α)
    (lexes : ∀ item ∈ items, Lexes (text item).toList (tokens item)) :
    Lexes (", ".intercalate (items.map text)).toList (commaSeparated (items.map tokens)) := by
  induction items with
  | nil => exact Lexes.nil
  | cons item rest induction =>
      have first := lexes item (by simp)
      have later := induction fun other member => lexes other (by simp [member])
      cases rest with
      | nil => simpa [Sql.commaSeparated] using first
      | cons next rest =>
          simp only [List.map_cons, String.intercalate_cons_cons, Sql.commaSeparated] at later ⊢
          have comma : Lexes ", ".toList [.comma] := rfl
          have opened := first.append comma (Apart.of_head _ (by simp))
          simpa using opened.append later (Apart.of_last _ (by simp))

theorem mem_commaSeparated {pieces : List (List Token)} {token : Token}
    (member : token ∈ commaSeparated pieces) :
    token = .comma ∨ ∃ piece ∈ pieces, token ∈ piece := by
  induction pieces with
  | nil => simp [commaSeparated] at member
  | cons piece rest induction =>
      cases rest with
      | nil => exact .inr ⟨piece, by simp, member⟩
      | cons next rest =>
          simp only [commaSeparated, List.mem_append, List.mem_cons] at member
          rcases member with inside | rfl | later
          · exact .inr ⟨piece, by simp, inside⟩
          · exact .inl rfl
          · rcases induction later with same | ⟨other, among, inside⟩
            · exact .inl same
            · exact .inr ⟨other, by simp [among], inside⟩

theorem isPlaceholder_of_mem_columnTokens {columns : List String} {token : Token}
    (member : token ∈ columnTokens columns) : token.isPlaceholder = false := by
  unfold columnTokens at member
  split at member
  · simp_all [Token.isPlaceholder]
  · rcases mem_commaSeparated member with rfl | ⟨piece, among, inside⟩
    · rfl
    · obtain ⟨name, _, rfl⟩ := List.mem_map.mp among
      simp_all [Token.isPlaceholder]

theorem isPlaceholder_of_mem_orderTokens {keys : List SortKey} {token : Token}
    (member : token ∈ orderTokens keys) : token.isPlaceholder = false := by
  unfold orderTokens at member
  split at member
  · simp at member
  · simp only [List.mem_cons] at member
    rcases member with rfl | rfl | listed
    · rfl
    · rfl
    · rcases mem_commaSeparated listed with rfl | ⟨piece, among, inside⟩
      · rfl
      · obtain ⟨key, _, rfl⟩ := List.mem_map.mp among
        cases direction : key.direction <;>
          simp [keyTokens, directionToken, direction] at inside <;>
          rcases inside with rfl | rfl <;> rfl

theorem lexes_columns {columns : List String} (plain : ∀ name ∈ columns, IsPlainName name) :
    Lexes (if columns.isEmpty then "*" else ", ".intercalate columns).toList
      (columnTokens columns) := by
  unfold columnTokens
  split
  · rfl
  · simpa using Lexes.commaSeparated id ([.name ·]) columns fun name member =>
      (plain name member).lexes

theorem lexes_key {key : SortKey} (plain : IsPlainName key.column) :
    Lexes key.text.toList (keyTokens key) := by
  have named : Lexes (key.column ++ " ").toList [.name key.column] := by
    have blank : Lexes " ".toList [] := rfl
    simpa using plain.lexes.append blank (Apart.of_head _ (by simp))
  have direction : Lexes key.direction.keyword.toList [directionToken key.direction] := by
    cases key.direction <;> rfl
  simpa [SortKey.text, keyTokens] using named.append direction (Apart.of_last _ (by simp))

end Sql

theorem Clause.writes_places (items : List Scalar) :
    (Clause.places items).Writes (placeTokens (items.map (some ·.canonical))) := by
  unfold placeTokens
  fun_induction Clause.places items with
  | case1 => exact .empty
  | case2 s => exact .placeholder s.canonical
  | case3 s t rest induction =>
      have comma : (Clause.literal ",").Writes [.comma] :=
        .literal rfl (by simp [Token.isPlaceholder])
      have opened := (Clause.Writes.placeholder s.canonical).append comma
        (Apart.of_head _ (by simp))
      simpa [commaSeparated] using opened.append induction (Apart.of_last _ (by simp))

theorem SortKey.orderClause_startsLoose (keys : List SortKey) :
    (SortKey.orderClause keys).StartsLoose := by
  unfold SortKey.orderClause
  split <;> simp [Clause.StartsLoose, Clause.empty]

theorem SortKey.orderClause_writes {keys : List SortKey}
    (plain : ∀ key ∈ keys, IsPlainName key.column) :
    (SortKey.orderClause keys).Writes (orderTokens keys) := by
  cases keys with
  | nil => exact .empty
  | cons key rest =>
      have listed := Lexes.commaSeparated SortKey.text keyTokens (key :: rest) fun other member =>
        lexes_key (plain other member)
      have opened : Lexes " ORDER BY ".toList [.keyword .orderWord, .keyword .byWord] := rfl
      refine .literal ?_ fun token => isPlaceholder_of_mem_orderTokens
      simpa [orderTokens] using opened.append listed (Apart.of_last _ (by simp))

theorem limitClause_startsLoose (limit : Option UInt64) : (limitClause limit).StartsLoose := by
  cases limit <;> simp [limitClause, Clause.StartsLoose, Clause.empty]

theorem limitClause_writes (limit : Option UInt64) :
    (limitClause limit).Writes (limitTokens (limit.map UInt64.toNat)) := by
  cases limit with
  | none => exact .empty
  | some n =>
      have opened : Lexes " LIMIT ".toList [.keyword .limitWord] := rfl
      refine .literal ?_ (by simp [limitTokens, Token.isPlaceholder])
      simpa [limitTokens] using opened.append (lexes_toDigits n.toNat) (Apart.of_last _ (by simp))

/-- A selection from a table in the form that statements and subqueries share. -/
def Clause.select (columns : List String) (table : String) (condition : Clause)
    (orderings : List SortKey) (limit : Option UInt64) : Clause :=
  .literal ("SELECT " ++ (if columns.isEmpty then "*" else ", ".intercalate columns) ++
      " FROM " ++ table) ++
    condition ++ SortKey.orderClause orderings ++ limitClause limit

theorem Clause.select_writes {columns : List String} {table : String} {condition : Clause}
    {tokens : List Token} {orderings : List SortKey} (limit : Option UInt64)
    (plainColumns : ∀ name ∈ columns, IsPlainName name) (plainTable : IsPlainName table)
    (writes : condition.Writes tokens) (loose : condition.StartsLoose)
    (plainKeys : ∀ key ∈ orderings, IsPlainName key.column) :
    (Clause.select columns table condition orderings limit).Writes
      (selectTokens columns table tokens orderings (limit.map UInt64.toNat)) := by
  have selected : Lexes "SELECT ".toList [.keyword .selectWord] := rfl
  have source : Lexes " FROM ".toList [.keyword .fromWord] := rfl
  have listed := selected.append (lexes_columns plainColumns) (Apart.of_last _ (by simp))
  have opened := (listed.append source (Apart.of_head _ (by simp))).append plainTable.lexes
    (Apart.of_last _ (by rw [List.getLast?_append]; simp))
  have head : (Clause.literal ("SELECT " ++
      (if columns.isEmpty then "*" else ", ".intercalate columns) ++ " FROM " ++ table)).Writes
      (.keyword .selectWord :: columnTokens columns ++ [.keyword .fromWord, .name table]) := by
    refine .literal (by simpa using opened) fun token member => ?_
    simp only [List.cons_append, List.mem_cons, List.mem_append] at member
    rcases member with rfl | among | rfl | rfl | none
    · rfl
    · exact isPlaceholder_of_mem_columnTokens among
    · rfl
    · rfl
    · simp at none
  exact ((head.append writes (loose.apart _)).append (SortKey.orderClause_writes plainKeys)
    ((SortKey.orderClause_startsLoose _).apart _)).append (limitClause_writes limit)
    ((limitClause_startsLoose _).apart _)

def Entry.whereClause (entries : List Entry) : Clause :=
  if entries.isEmpty then .empty else .literal " WHERE " ++ Entry.joinedClause entries

def Entry.whereTokens (entries : List Entry) : List Token :=
  if entries.isEmpty then [] else .keyword .whereWord :: Entry.tokens entries

theorem Query.selectClause_eq_select (table : String) (q : Query) :
    q.selectClause table =
      Clause.select q.projection.toList table (Entry.whereClause q.entries) q.orderings q.limit := by
  obtain ⟨entries, projection, orderings, limit⟩ := q
  cases projection <;> rfl

theorem Entry.whereClause_startsLoose (entries : List Entry) :
    (Entry.whereClause entries).StartsLoose := by
  unfold Entry.whereClause
  split <;> simp [Clause.StartsLoose, Clause.empty]

theorem Entry.whereClause_writes {entries : List Entry}
    (writes : (Entry.joinedClause entries).Writes (Entry.tokens entries)) :
    (Entry.whereClause entries).Writes (Entry.whereTokens entries) := by
  have opened : (Clause.literal " WHERE ").Writes [.keyword .whereWord] :=
    .literal rfl (by simp [Token.isPlaceholder])
  unfold Entry.whereClause Entry.whereTokens
  split
  · exact .empty
  · exact opened.append writes (Apart.of_last _ (by simp))

theorem Comparison.lexes_symbol (comparison : Comparison) :
    Lexes (" " ++ comparison.symbol ++ " ").toList [comparison.token] := by
  cases comparison <;> rfl

theorem Value.clause_startsLoose (symbol : String) (value : Value) :
    (value.clause symbol).StartsLoose := by
  cases value <;> simp [Value.clause, Clause.StartsLoose]

theorem Entry.followingClause_startsLoose (entries : List Entry) :
    (Entry.followingClause entries).StartsLoose := by
  cases entries with
  | nil => simp [Entry.followingClause, Clause.StartsLoose, Clause.empty]
  | cons entry rest =>
      obtain ⟨connector, node⟩ := entry
      simp [Entry.followingClause, Clause.StartsLoose]

mutual
theorem Value.clause_writes (comparison : Comparison) :
    ∀ value : Value, (∀ name ∈ value.names, IsPlainName name) →
      (value.clause comparison.symbol).Writes (value.tokens comparison)
  | .scalar s, _ => by
      rw [Value.clause, Value.tokens]
      have related : (Clause.literal (" " ++ comparison.symbol ++ " ")).Writes
          [comparison.token] := by
        refine .literal comparison.lexes_symbol ?_
        cases comparison <;> simp [Comparison.token, Token.isPlaceholder]
      exact related.append (.placeholder s.canonical) (Apart.after_blank _ _)
  | .list items, _ => by
      rw [Value.clause, Value.tokens]
      have opened : (Clause.literal " IN(").Writes [.keyword .inWord, .leftParen] :=
        .literal rfl (by simp [Token.isPlaceholder])
      have closed : (Clause.literal ")").Writes [.rightParen] :=
        .literal rfl (by simp [Token.isPlaceholder])
      exact (opened.append (Clause.writes_places items) (Apart.of_last _ (by simp))).append closed
        (Apart.of_head _ (by simp))
  | .subquery table query, plain => by
      rw [Value.names] at plain
      rw [Value.clause, Value.tokens]
      have opened : (Clause.literal " IN (").Writes [.keyword .inWord, .leftParen] :=
        .literal rfl (by simp [Token.isPlaceholder])
      have closed : (Clause.literal ")").Writes [.rightParen] :=
        .literal rfl (by simp [Token.isPlaceholder])
      have inner := Query.selectClause_writes table (plain table (by simp)) query
        fun name member => plain name (by simp [member])
      exact (opened.append inner (Apart.of_last _ (by simp))).append closed
        (Apart.of_head _ (by simp))

theorem Query.selectClause_writes (table : String) (plainTable : IsPlainName table) :
    ∀ q : Query, (∀ name ∈ q.names, IsPlainName name) →
      (q.selectClause table).Writes (q.tokens table)
  | ⟨entries, projection, orderings, limit⟩, plain => by
      rw [Query.names] at plain
      rw [Query.selectClause_eq_select, Query.tokens]
      exact Clause.select_writes limit (fun name member => plain name (by simp [member]))
        plainTable (Entry.whereClause_writes (Entry.joinedClause_writes entries fun name member =>
          plain name (by simp [member]))) (Entry.whereClause_startsLoose entries)
        fun key member => plain key.column (by simp [List.mem_map_of_mem member])

theorem Condition.clause_writes :
    ∀ condition : Condition, (∀ name ∈ condition.names, IsPlainName name) →
      condition.clause.Writes condition.tokens
  | ⟨column, op, value⟩, plain => by
      rw [Condition.names] at plain
      rw [Condition.clause, Condition.tokens]
      have named := (plain column (by simp)).lexes
      have head : (Clause.literal ((if op.negated then "NOT " else "") ++ column)).Writes
          ((if op.negated then [.keyword .notWord] else []) ++ [.name column]) := by
        cases op.negated with
        | true =>
            have negated : Lexes "NOT ".toList [.keyword .notWord] := rfl
            refine .literal ?_ (by simp [Token.isPlaceholder])
            simpa using negated.append named (Apart.of_last _ (by simp))
        | false => exact .literal (by simpa using named) (by simp [Token.isPlaceholder])
      have valued := Value.clause_writes op.comparison value
        fun name member => plain name (by simp [member])
      simpa [Op.symbol] using head.append valued ((Value.clause_startsLoose _ value).apart _)

theorem Node.clause_writes :
    ∀ node : Node, (∀ name ∈ node.names, IsPlainName name) → node.clause.Writes node.tokens
  | .condition condition, plain => by
      rw [Node.names] at plain
      rw [Node.clause, Node.tokens]
      exact Condition.clause_writes condition plain
  | .group entries, plain => by
      rw [Node.names] at plain
      rw [Node.clause, Node.tokens]
      have opened : (Clause.literal "(").Writes [.leftParen] :=
        .literal rfl (by simp [Token.isPlaceholder])
      have closed : (Clause.literal ")").Writes [.rightParen] :=
        .literal rfl (by simp [Token.isPlaceholder])
      exact (opened.append (Entry.joinedClause_writes entries plain)
        (Apart.of_last _ (by simp))).append closed (Apart.of_head _ (by simp))

theorem Entry.joinedClause_writes :
    ∀ entries : List Entry, (∀ name ∈ Entry.names entries, IsPlainName name) →
      (Entry.joinedClause entries).Writes (Entry.tokens entries)
  | [], _ => by
      rw [Entry.joinedClause, Entry.tokens]
      exact .empty
  | ⟨_, node⟩ :: rest, plain => by
      rw [Entry.names] at plain
      rw [Entry.joinedClause, Entry.tokens]
      exact (Node.clause_writes node fun name member => plain name (by simp [member])).append
        (Entry.followingClause_writes rest fun name member => plain name (by simp [member]))
        ((Entry.followingClause_startsLoose rest).apart _)

theorem Entry.followingClause_writes :
    ∀ entries : List Entry, (∀ name ∈ Entry.names entries, IsPlainName name) →
      (Entry.followingClause entries).Writes (Entry.followingTokens entries)
  | [], _ => by
      rw [Entry.followingClause, Entry.followingTokens]
      exact .empty
  | ⟨connector, node⟩ :: rest, plain => by
      rw [Entry.names] at plain
      rw [Entry.followingClause, Entry.followingTokens]
      have joined : (Clause.literal (" " ++ connector.keyword ++ " ")).Writes
          [connector.token] := by
        cases connector <;>
          exact .literal rfl (by simp [Connector.token, Token.isPlaceholder])
      exact (joined.append (Node.clause_writes node fun name member =>
          plain name (by simp [member])) (Apart.after_blank _ _)).append
        (Entry.followingClause_writes rest fun name member => plain name (by simp [member]))
        ((Entry.followingClause_startsLoose rest).apart _)
end

end Criteria
