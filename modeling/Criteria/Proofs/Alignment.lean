import Criteria.Clause
import Criteria.Proofs.Parts

namespace Criteria

/-- Puts the arguments into the places of a text, the k-th into the k-th. -/
def fill : List Char → List String → List Char
  | [], _ => []
  | '?' :: rest, argument :: arguments => argument.toList ++ fill rest arguments
  | c :: rest, arguments => c :: fill rest arguments

mutual
def Value.inlineText (symbol : String) : Value → String
  | .scalar s => " " ++ symbol ++ " " ++ s.canonical
  | .list items => " IN(" ++ ",".intercalate (items.map Scalar.canonical) ++ ")"
  | .subquery table query => " IN (" ++ query.inlineSelect table ++ ")"

def Query.inlineSelect (table : String) : Query → String
  | ⟨entries, projection, orderings, limit⟩ =>
      "SELECT " ++ projection.getD "*" ++ " FROM " ++ table ++
        (if entries.isEmpty then "" else " WHERE " ++ Entry.inlineText entries) ++
        (SortKey.orderText? orderings).elim "" (" ORDER BY " ++ ·) ++
        limit.elim "" fun n => " LIMIT " ++ toString n.toNat

def Condition.inlineText : Condition → String
  | ⟨column, op, value⟩ =>
      (if op.negated then "NOT " else "") ++ column ++ value.inlineText op.symbol

def Node.inlineText : Node → String
  | .condition condition => condition.inlineText
  | .group entries => "(" ++ Entry.inlineText entries ++ ")"

def Entry.inlineText : List Entry → String
  | [] => ""
  | ⟨_, node⟩ :: rest => node.inlineText ++ Entry.followingText rest

def Entry.followingText : List Entry → String
  | [] => ""
  | ⟨connector, node⟩ :: rest =>
      " " ++ connector.keyword ++ " " ++ node.inlineText ++ Entry.followingText rest
end

def HasNoPlace (text : String) : Prop :=
  '?' ∉ text.toList

theorem fill_cons_of_ne {c : Char} (text : List Char) (arguments : List String) (other : c ≠ '?') :
    fill (c :: text) arguments = c :: fill text arguments := by
  simp [fill, other]

theorem fill_of_not_mem {text : List Char} (arguments : List String) (clean : '?' ∉ text) :
    fill text arguments = text := by
  induction text with
  | nil => rfl
  | cons c rest induction =>
      simp only [List.mem_cons, not_or] at clean
      rw [fill_cons_of_ne rest arguments (Ne.symm clean.1), induction clean.2]

/-- Places that have an argument each do not reach for those of the text behind them. -/
theorem fill_append {text : List Char} {arguments : List String} (more : List Char)
    (others : List String) (counted : text.count '?' = arguments.length) :
    fill (text ++ more) (arguments ++ others) = fill text arguments ++ fill more others := by
  induction text generalizing arguments with
  | nil =>
      have none : arguments = [] := by simpa using counted.symm
      simp [none, fill]
  | cons c rest induction =>
      by_cases place : c = '?'
      · subst place
        cases arguments with
        | nil => simp at counted
        | cons argument arguments =>
            have counted : rest.count '?' = arguments.length := by simpa using counted
            simp [fill, induction counted]
      · have counted : rest.count '?' = arguments.length := by
          simpa [List.count_cons, place] using counted
        rw [List.cons_append, fill_cons_of_ne _ _ place, fill_cons_of_ne _ _ place,
          induction counted, List.cons_append]

structure Clause.Inlines (c : Clause) (text : String) : Prop where
  counted : c.selection.toList.count '?' = c.arguments.length
  filled : fill c.selection.toList c.arguments = text.toList

namespace Clause.Inlines

theorem empty : Clause.empty.Inlines "" where
  counted := rfl
  filled := rfl

theorem literal {text : String} (clean : HasNoPlace text) : (Clause.literal text).Inlines text where
  counted := List.count_eq_zero.mpr clean
  filled := fill_of_not_mem [] clean

theorem placeholder (argument : String) : (Clause.placeholder argument).Inlines argument where
  counted := by simp
  filled := by simp [fill]

theorem append {c d : Clause} {s t : String} (left : c.Inlines s) (right : d.Inlines t) :
    (c ++ d).Inlines (s ++ t) where
  counted := by simp [left.counted, right.counted]
  filled := by
    simp only [selection_append, arguments_append, String.toList_append]
    rw [fill_append _ _ left.counted, left.filled, right.filled]

theorem places (items : List Scalar) :
    (Clause.places items).Inlines (",".intercalate (items.map Scalar.canonical)) := by
  fun_induction Clause.places items with
  | case1 => exact empty
  | case2 s => simpa using placeholder s.canonical
  | case3 s t rest induction =>
      simp only [List.map_cons, String.intercalate_cons_cons]
      exact ((placeholder s.canonical).append (literal (by simp [HasNoPlace]))).append induction

end Clause.Inlines

theorem HasNoPlace.append {s t : String} (first : HasNoPlace s) (second : HasNoPlace t) :
    HasNoPlace (s ++ t) := by
  simp only [HasNoPlace, String.toList_append, List.mem_append, not_or]
  exact ⟨first, second⟩

theorem hasNoPlace_repr (n : Nat) : HasNoPlace n.repr := by
  intro held
  rw [Nat.toList_repr] at held
  have digit := Nat.isDigit_of_mem_toDigits (by decide) (by decide) held
  exact absurd digit (by decide)

theorem Op.hasNoPlace_symbol (op : Op) : HasNoPlace op.symbol := by
  obtain ⟨comparison, negated⟩ := op
  cases comparison <;> simp [HasNoPlace, Op.symbol, Comparison.symbol]

theorem Direction.hasNoPlace_keyword (direction : Direction) : HasNoPlace direction.keyword := by
  cases direction <;> simp [HasNoPlace, Direction.keyword]

theorem Connector.hasNoPlace_keyword (connector : Connector) : HasNoPlace connector.keyword := by
  cases connector <;> simp [HasNoPlace, Connector.keyword]

theorem SortKey.hasNoPlace_texts (keys : List SortKey)
    (clean : ∀ key ∈ keys, HasNoPlace key.column) :
    HasNoPlace (", ".intercalate (keys.map SortKey.text)) := by
  induction keys with
  | nil => simp [HasNoPlace]
  | cons key rest induction =>
      have first : HasNoPlace key.text :=
        ((clean key (by simp)).append (by simp [HasNoPlace])).append
          key.direction.hasNoPlace_keyword
      have later := induction fun other member => clean other (by simp [member])
      cases rest with
      | nil => simpa using first
      | cons next rest =>
          simp only [List.map_cons, String.intercalate_cons_cons] at later ⊢
          exact (first.append (by simp [HasNoPlace])).append later

theorem SortKey.orderClause_inlines (keys : List SortKey)
    (clean : ∀ key ∈ keys, HasNoPlace key.column) :
    (SortKey.orderClause keys).Inlines
      ((SortKey.orderText? keys).elim "" (" ORDER BY " ++ ·)) := by
  cases keys with
  | nil => exact .empty
  | cons key rest =>
      exact .literal (.append (by simp [HasNoPlace]) (SortKey.hasNoPlace_texts _ clean))

theorem limitClause_inlines (limit : Option UInt64) :
    (limitClause limit).Inlines (limit.elim "" fun n => " LIMIT " ++ toString n.toNat) := by
  cases limit with
  | none => exact .empty
  | some n => exact .literal (.append (by simp [HasNoPlace]) (hasNoPlace_repr _))

mutual
theorem Value.clause_inlines (symbol : String) (plain : HasNoPlace symbol) :
    ∀ value : Value, (∀ name ∈ value.names, HasNoPlace name) →
      (value.clause symbol).Inlines (value.inlineText symbol)
  | .scalar s, _ => by
      rw [Value.clause, Value.inlineText]
      have before : HasNoPlace (" " ++ symbol ++ " ") :=
        .append (.append (by simp [HasNoPlace]) plain) (by simp [HasNoPlace])
      exact (Clause.Inlines.literal before).append (.placeholder s.canonical)
  | .list items, _ => by
      rw [Value.clause, Value.inlineText]
      exact .append (.append (.literal (by simp [HasNoPlace])) (.places items))
        (.literal (by simp [HasNoPlace]))
  | .subquery table query, clean => by
      rw [Value.names] at clean
      rw [Value.clause, Value.inlineText]
      have inner := Query.selectClause_inlines table (clean table (by simp)) query
        fun name member => clean name (by simp [member])
      exact .append (.append (.literal (by simp [HasNoPlace])) inner)
        (.literal (by simp [HasNoPlace]))

theorem Query.selectClause_inlines (table : String) (plain : HasNoPlace table) :
    ∀ q : Query, (∀ name ∈ q.names, HasNoPlace name) →
      (q.selectClause table).Inlines (q.inlineSelect table)
  | ⟨entries, projection, orderings, limit⟩, clean => by
      rw [Query.names] at clean
      rw [Query.selectClause, Query.inlineSelect]
      have projected : HasNoPlace (projection.getD "*") := by
        cases projection with
        | none => simp [HasNoPlace]
        | some column => exact clean column (by simp)
      have head : HasNoPlace ("SELECT " ++ projection.getD "*" ++ " FROM " ++ table) :=
        .append (.append (.append (by simp [HasNoPlace]) projected) (by simp [HasNoPlace])) plain
      have conditions :
          (if entries.isEmpty then Clause.empty
            else .literal " WHERE " ++ Entry.joinedClause entries).Inlines
            (if entries.isEmpty then "" else " WHERE " ++ Entry.inlineText entries) := by
        split
        · exact .empty
        · exact .append (.literal (by simp [HasNoPlace]))
            (Entry.joinedClause_inlines entries fun name member => clean name (by simp [member]))
      have order := SortKey.orderClause_inlines orderings fun key member =>
        clean key.column (by simp [List.mem_map_of_mem member])
      exact .append (.append (.append (.literal head) conditions) order)
        (limitClause_inlines limit)

theorem Condition.clause_inlines :
    ∀ condition : Condition, (∀ name ∈ condition.names, HasNoPlace name) →
      condition.clause.Inlines condition.inlineText
  | ⟨column, op, value⟩, clean => by
      rw [Condition.names] at clean
      rw [Condition.clause, Condition.inlineText]
      have head : HasNoPlace ((if op.negated then "NOT " else "") ++ column) := by
        refine .append ?_ (clean column (by simp))
        split <;> simp [HasNoPlace]
      exact .append (.literal head) (Value.clause_inlines op.symbol op.hasNoPlace_symbol value
        fun name member => clean name (by simp [member]))

theorem Node.clause_inlines :
    ∀ node : Node, (∀ name ∈ node.names, HasNoPlace name) →
      node.clause.Inlines node.inlineText
  | .condition condition, clean => by
      rw [Node.names] at clean
      rw [Node.clause, Node.inlineText]
      exact Condition.clause_inlines condition clean
  | .group entries, clean => by
      rw [Node.names] at clean
      rw [Node.clause, Node.inlineText]
      exact .append (.append (.literal (by simp [HasNoPlace]))
        (Entry.joinedClause_inlines entries clean)) (.literal (by simp [HasNoPlace]))

theorem Entry.joinedClause_inlines :
    ∀ entries : List Entry, (∀ name ∈ Entry.names entries, HasNoPlace name) →
      (Entry.joinedClause entries).Inlines (Entry.inlineText entries)
  | [], _ => by
      rw [Entry.joinedClause, Entry.inlineText]
      exact .empty
  | ⟨_, node⟩ :: rest, clean => by
      rw [Entry.names] at clean
      rw [Entry.joinedClause, Entry.inlineText]
      exact .append (Node.clause_inlines node fun name member => clean name (by simp [member]))
        (Entry.followingClause_inlines rest fun name member => clean name (by simp [member]))

theorem Entry.followingClause_inlines :
    ∀ entries : List Entry, (∀ name ∈ Entry.names entries, HasNoPlace name) →
      (Entry.followingClause entries).Inlines (Entry.followingText entries)
  | [], _ => by
      rw [Entry.followingClause, Entry.followingText]
      exact .empty
  | ⟨connector, node⟩ :: rest, clean => by
      rw [Entry.names] at clean
      rw [Entry.followingClause, Entry.followingText]
      have keyword : HasNoPlace (" " ++ connector.keyword ++ " ") :=
        .append (.append (by simp [HasNoPlace]) connector.hasNoPlace_keyword)
          (by simp [HasNoPlace])
      exact .append (.append (.literal keyword)
          (Node.clause_inlines node fun name member => clean name (by simp [member])))
        (Entry.followingClause_inlines rest fun name member => clean name (by simp [member]))
end

theorem Clause.arguments_places (items : List Scalar) :
    (Clause.places items).arguments = items.map Scalar.canonical := by
  fun_induction Clause.places items with
  | case1 => rfl
  | case2 s => rfl
  | case3 s t rest induction => simp [induction]

theorem SortKey.arguments_orderClause (keys : List SortKey) :
    (SortKey.orderClause keys).arguments = [] := by
  unfold SortKey.orderClause
  split <;> rfl

theorem arguments_limitClause (limit : Option UInt64) : (limitClause limit).arguments = [] := by
  cases limit <;> rfl

mutual
theorem Value.arguments_clause (symbol : String) :
    ∀ value : Value, (value.clause symbol).arguments = value.scalars.map Scalar.canonical
  | .scalar s => by simp [Value.clause, Value.scalars]
  | .list items => by simp [Value.clause, Value.scalars, Clause.arguments_places]
  | .subquery table query => by
      simp [Value.clause, Value.scalars, Query.arguments_selectClause table query]

theorem Query.arguments_selectClause (table : String) :
    ∀ q : Query, (q.selectClause table).arguments = q.scalars.map Scalar.canonical
  | ⟨entries, projection, orderings, limit⟩ => by
      rw [Query.selectClause, Query.scalars, ← Entry.arguments_joinedClause entries]
      cases entries with
      | nil =>
          simp [SortKey.arguments_orderClause, arguments_limitClause, Clause.empty,
            Entry.joinedClause]
      | cons entry rest => simp [SortKey.arguments_orderClause, arguments_limitClause]

theorem Node.arguments_clause :
    ∀ node : Node, node.clause.arguments = node.scalars.map Scalar.canonical
  | .condition ⟨column, op, value⟩ => by
      simp [Node.clause, Node.scalars, Condition.clause, Condition.scalars,
        Value.arguments_clause op.symbol value]
  | .group entries => by
      simp [Node.clause, Node.scalars, Entry.arguments_joinedClause entries]

theorem Entry.arguments_joinedClause :
    ∀ entries : List Entry,
      (Entry.joinedClause entries).arguments = (Entry.scalars entries).map Scalar.canonical
  | [] => rfl
  | ⟨_, node⟩ :: rest => by
      simp [Entry.joinedClause, Entry.scalars, Node.arguments_clause node,
        Entry.arguments_followingClause rest]

theorem Entry.arguments_followingClause :
    ∀ entries : List Entry,
      (Entry.followingClause entries).arguments = (Entry.scalars entries).map Scalar.canonical
  | [] => rfl
  | ⟨_, node⟩ :: rest => by
      simp [Entry.followingClause, Entry.scalars, Node.arguments_clause node,
        Entry.arguments_followingClause rest]
end

namespace Query

/-- The k-th argument belongs in the k-th place: the clause holds as many of the one as of the
other, filling the places gives the text with the values in it, and the arguments are the values of
the tree from left to right. -/
theorem compile_fill (q : Query) (clean : ∀ name ∈ Entry.names q.entries, HasNoPlace name) :
    q.compile.selection.toList.count '?' = q.compile.arguments.length ∧
      fill q.compile.selection.toList q.compile.arguments =
        (Entry.inlineText q.entries).toList ∧
      q.compile.arguments = (Entry.scalars q.entries).map Scalar.canonical := by
  have inlines := Entry.joinedClause_inlines q.entries clean
  exact ⟨inlines.counted, inlines.filled, Entry.arguments_joinedClause q.entries⟩

private def nestedValues : List Entry :=
  [⟨.and, .condition ⟨"done", .plain .eq, .scalar (.bool false)⟩⟩,
    ⟨.or, .group
      [⟨.and, .condition ⟨"priority", .plain .member, .list [.int 1, .int (-2)]⟩⟩,
        ⟨.and, .condition ⟨"list_id", ⟨.member, true⟩, .subquery "lists"
          ⟨[⟨.and, .condition ⟨"name", .plain .eq, .scalar (.text "?")⟩⟩], some "_id", [],
            none⟩⟩⟩]⟩]

theorem compile_fill_nested :
    (∀ name ∈ Entry.names nestedValues, HasNoPlace name) ∧
      fill (Entry.joinedClause nestedValues).selection.toList
          (Entry.joinedClause nestedValues).arguments =
        (Entry.inlineText nestedValues).toList := by
  have clean : ∀ name ∈ Entry.names nestedValues, HasNoPlace name := by
    simp [nestedValues, Entry.names, Node.names, Condition.names, Value.names, Query.names,
      HasNoPlace]
  exact ⟨clean, (compile_fill ⟨nestedValues, none, [], none⟩ clean).2.1⟩

end Query

end Criteria
