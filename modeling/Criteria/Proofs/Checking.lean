import Criteria.Proofs.Reachable

namespace Criteria

namespace Text

/-- The code points with the property `White_Space`. -/
def spacePoints : List Nat :=
  [0x9, 0xa, 0xb, 0xc, 0xd, 0x20, 0x85, 0xa0, 0x1680, 0x2000, 0x2001, 0x2002, 0x2003, 0x2004,
    0x2005, 0x2006, 0x2007, 0x2008, 0x2009, 0x200a, 0x2028, 0x2029, 0x202f, 0x205f, 0x3000]

theorem isSpace_iff (c : Char) : isSpace c = true ↔ c.toNat ∈ spacePoints := by
  simp only [isSpace, spacePoints, decide_eq_true_eq, List.mem_cons, List.not_mem_nil, or_false]
  omega

theorem isBlank_iff {text : String} :
    isBlank text = true ↔ ∀ c ∈ text.toList, c.toNat ∈ spacePoints := by
  simp only [isBlank, List.all_eq_true, isSpace_iff]

theorem isBlank_eq_false_iff {text : String} :
    isBlank text = false ↔ ∃ c ∈ text.toList, c.toNat ∉ spacePoints := by
  rw [← Bool.not_eq_true, isBlank_iff]
  simp only [Classical.not_forall, exists_prop]

end Text

theorem Binary64.isFinite_eq_false_iff {x : Binary64} :
    x.isFinite = false ↔ x.isNaN = true ∨ x.magnitude = infinity := by
  simp only [isFinite, isNaN, decide_eq_true_eq, decide_eq_false_iff_not]
  omega

namespace Value

/-- Membership takes a list or a subquery that projects, every other operator a single value. -/
inductive Misfits (op : Op) : Value → ShapeFault → Prop
  | single (s : Scalar) (membership : op.comparison = .member) :
      Misfits op (.scalar s) (.notMembers s.typeName)
  | unprojected (table : String) {query : Query} (membership : op.comparison = .member)
      (bare : query.projection = none) : Misfits op (.subquery table query) .noProjection
  | list (items : List Scalar) (other : op.comparison ≠ .member) :
      Misfits op (.list items) (.notSingle "list")
  | subquery (table : String) (query : Query) (other : op.comparison ≠ .member) :
      Misfits op (.subquery table query) (.notSingle "subquery")

theorem Misfits.shapeFault? {op : Op} {value : Value} {fault : ShapeFault}
    (misfits : value.Misfits op fault) : value.shapeFault? op = some fault := by
  cases misfits with
  | single s membership => simp [Value.shapeFault?, Op.isMembership, membership]
  | unprojected table membership bare =>
      simp [Value.shapeFault?, Op.isMembership, membership, bare]
  | list items other => simp [Value.shapeFault?, Op.isMembership, other, kind]
  | subquery table query other => simp [Value.shapeFault?, Op.isMembership, other, kind]

theorem misfits_of_shapeFault? {op : Op} {value : Value} {fault : ShapeFault}
    (found : value.shapeFault? op = some fault) : value.Misfits op fault := by
  by_cases membership : op.comparison = .member
  · cases value with
    | scalar s =>
        obtain rfl : .notMembers s.typeName = fault := by
          simpa [Value.shapeFault?, Op.isMembership, membership] using found
        exact .single s membership
    | list items => simp [Value.shapeFault?, Op.isMembership, membership] at found
    | subquery table query =>
        obtain ⟨bare, rfl⟩ : query.projection = none ∧ .noProjection = fault := by
          simpa [Value.shapeFault?, Op.isMembership, membership] using found
        exact .unprojected table membership bare
  · cases value with
    | scalar s => simp [Value.shapeFault?, Op.isMembership, membership] at found
    | list items =>
        obtain rfl : .notSingle "list" = fault := by
          simpa [Value.shapeFault?, Op.isMembership, membership, kind] using found
        exact .list items membership
    | subquery table query =>
        obtain rfl : .notSingle "subquery" = fault := by
          simpa [Value.shapeFault?, Op.isMembership, membership, kind] using found
        exact .subquery table query membership

theorem shapeFault?_eq_none_iff {op : Op} {value : Value} :
    value.shapeFault? op = none ↔ ∀ fault, ¬ value.Misfits op fault := by
  rw [Option.eq_none_iff_forall_ne_some]
  exact forall_congr' fun fault => not_congr ⟨misfits_of_shapeFault?, Misfits.shapeFault?⟩

/-- The values of a condition itself. Those of a subquery belong to the conditions in it. -/
def held : Value → List Scalar
  | .scalar s => [s]
  | .list items => items
  | .subquery _ _ => []

theorem isFinite_eq_false_iff {value : Value} :
    value.isFinite = false ↔
      ∃ x : Binary64, .float x ∈ value.held ∧
        (x.isNaN = true ∨ x.magnitude = Binary64.infinity) := by
  have judged : value.isFinite = value.held.all Scalar.isFinite := by
    cases value <;> simp [isFinite, held]
  simp only [judged, List.all_eq_false, ← Binary64.isFinite_eq_false_iff]
  constructor
  · rintro ⟨s, member, infinite⟩
    cases s with
    | float x => exact ⟨x, member, by simpa [Scalar.isFinite] using infinite⟩
    | _ => exact absurd rfl infinite
  · rintro ⟨x, member, infinite⟩
    exact ⟨.float x, member, by simpa [Scalar.isFinite] using infinite⟩

end Value

namespace Condition

/-- What a caller is told. A fault counts where the judgements before it found none. -/
inductive Refused (column : String) (op : Op) (value : Value) : QueryError → Prop
  | column (blank : ∀ c ∈ column.toList, c.toNat ∈ Text.spacePoints) :
      Refused column op value (.invalidColumn column)
  | shape {fault : ShapeFault} (shown : ∃ c ∈ column.toList, c.toNat ∉ Text.spacePoints)
      (misfits : value.Misfits op fault) : Refused column op value (.invalidOperator op fault)
  | number {x : Binary64} (shown : ∃ c ∈ column.toList, c.toNat ∉ Text.spacePoints)
      (fits : ∀ fault, ¬ value.Misfits op fault) (held : .float x ∈ value.held)
      (infinite : x.isNaN = true ∨ x.magnitude = Binary64.infinity) :
      Refused column op value (.invalidValue column "float is not finite")

variable {column : String} {op : Op} {value : Value}

theorem refused_of_make {fault : QueryError} (made : make column op value = .error fault) :
    Refused column op value fault := by
  unfold make at made
  split at made
  case isTrue blank =>
    cases made
    exact .column (Text.isBlank_iff.mp blank)
  case isFalse seen =>
    have shown := Text.isBlank_eq_false_iff.mp (Bool.eq_false_iff.mpr seen)
    split at made
    case h_1 fault found =>
      cases made
      exact .shape shown (Value.misfits_of_shapeFault? found)
    case h_2 fits =>
      split at made
      case isTrue => cases made
      case isFalse infinite =>
        cases made
        obtain ⟨x, held, infinite⟩ :=
          Value.isFinite_eq_false_iff.mp (Bool.eq_false_iff.mpr infinite)
        exact .number shown (Value.shapeFault?_eq_none_iff.mp fits) held infinite

theorem Refused.make {fault : QueryError} (refused : Refused column op value fault) :
    Condition.make column op value = .error fault := by
  cases refused with
  | column blank => simp [Condition.make, Text.isBlank_iff.mpr blank]
  | shape shown misfits =>
      simp [Condition.make, Text.isBlank_eq_false_iff.mpr shown, misfits.shapeFault?]
  | number shown fits held infinite =>
      simp [Condition.make, Text.isBlank_eq_false_iff.mpr shown,
        Value.shapeFault?_eq_none_iff.mpr fits,
        Value.isFinite_eq_false_iff.mpr ⟨_, held, infinite⟩]

theorem make_eq_error_iff {fault : QueryError} :
    make column op value = .error fault ↔ Refused column op value fault :=
  ⟨refused_of_make, Refused.make⟩

theorem make_eq_ok_iff {condition : Condition} :
    make column op value = .ok condition ↔
      (∀ fault, ¬ Refused column op value fault) ∧ condition = ⟨column, op, value⟩ := by
  constructor
  · intro made
    refine ⟨fun fault refused => ?_, eq_of_make made⟩
    rw [refused.make] at made
    cases made
  · rintro ⟨faultless, rfl⟩
    cases made : make column op value with
    | error fault => exact absurd (refused_of_make made) (faultless fault)
    | ok condition => rw [eq_of_make made]

end Condition

/-- The calls that add a condition to a query. -/
inductive Addition
  | and (column : String) (op : Op) (value : Value)
  | or (column : String) (op : Op) (value : Value)
  | andEq (column : String) (value : Value)
  | orEq (column : String) (value : Value)
  | andLike (column : String) (pattern : String)
  | andIn (column : String) (items : List Scalar)
  | orIn (column : String) (items : List Scalar)

namespace Addition

def perform (q : Query) : Addition → Except QueryError Query
  | and column op value => q.and column op value
  | or column op value => q.or column op value
  | andEq column value => q.andEq column value
  | orEq column value => q.orEq column value
  | andLike column pattern => q.andLike column pattern
  | andIn column items => q.andIn column items
  | orIn column items => q.orIn column items

def connector : Addition → Connector
  | and .. | andEq .. | andLike .. | andIn .. => .and
  | or .. | orEq .. | orIn .. => .or

/-- The condition that the call asks for. -/
def asked : Addition → Condition
  | and column op value | or column op value => ⟨column, op, value⟩
  | andEq column value | orEq column value => ⟨column, .plain .eq, value⟩
  | andLike column pattern => ⟨column, .plain .like, .scalar (.text pattern)⟩
  | andIn column items | orIn column items => ⟨column, .plain .member, .list items⟩

def Refused (call : Addition) (fault : QueryError) : Prop :=
  Condition.Refused call.asked.column call.asked.op call.asked.value fault

theorem perform_eq_add (call : Addition) (q : Query) :
    call.perform q =
      q.add call.connector call.asked.column call.asked.op call.asked.value := by
  cases call <;> rfl

theorem perform_eq_error_iff {call : Addition} {q : Query} {fault : QueryError} :
    call.perform q = .error fault ↔ call.Refused fault := by
  rw [perform_eq_add, Query.add, Refused, ← Condition.make_eq_error_iff]
  cases Condition.make call.asked.column call.asked.op call.asked.value <;> simp [Except.map]

theorem perform_eq_ok_iff {call : Addition} {q r : Query} :
    call.perform q = .ok r ↔
      (∀ fault, ¬ call.Refused fault) ∧ r = q.push call.connector call.asked := by
  -- A condition that is not taken apart is not known to be made of its fields.
  have whole : Condition.mk call.asked.column call.asked.op call.asked.value = call.asked := by
    cases call.asked
    rfl
  rw [perform_eq_add]
  constructor
  · intro added
    obtain ⟨condition, made, rfl⟩ := Query.made_of_add added
    obtain ⟨faultless, rfl⟩ := Condition.make_eq_ok_iff.mp made
    exact ⟨faultless, by rw [whole]⟩
  · rintro ⟨faultless, rfl⟩
    have made := Condition.make_eq_ok_iff.mpr ⟨faultless, whole.symm⟩
    rw [Query.add, made]
    rfl

end Addition

/-- A condition is refused for exactly one fault, the first of its column, its shape and its
numbers, or made as it was asked for. A call that adds one fails with that fault, or puts one entry
with that condition behind the others and leaves all else. -/
theorem Condition.refused_or_made :
    (∀ (column : String) (op : Op) (value : Value) (fault : QueryError),
      make column op value = .error fault ↔ Refused column op value fault) ∧
      (∀ (column : String) (op : Op) (value : Value) (condition : Condition),
        make column op value = .ok condition ↔
          (∀ fault, ¬ Refused column op value fault) ∧ condition = ⟨column, op, value⟩) ∧
      ∀ (call : Addition) (q : Query),
        (∀ fault, call.perform q = .error fault ↔ call.Refused fault) ∧
          ∀ r, call.perform q = .ok r ↔
            (∀ fault, ¬ call.Refused fault) ∧
              r = ⟨q.entries ++ [⟨call.connector, .condition call.asked⟩], q.projection,
                q.orderings, q.limit⟩ :=
  ⟨fun _ _ _ _ => make_eq_error_iff, fun _ _ _ _ => make_eq_ok_iff,
    fun _ _ => ⟨fun _ => Addition.perform_eq_error_iff, fun _ => Addition.perform_eq_ok_iff⟩⟩

private def firstOpen : Query :=
  (Query.empty.push .or ⟨"done", .plain .eq, .scalar (.bool false)⟩).withLimit 1

private def powers : Addition :=
  .orIn "ratio" [.int 1, .text "NaN", .float ⟨0xfff0000000000000⟩]

/-- Three faults at once and two, the last of several numbers, and blanks around a name. -/
theorem Condition.refused_or_made_precedence :
    make "\u2003\t" (.plain .eq) (.list [.float ⟨0x7ff8000000000000⟩]) =
        .error (.invalidColumn "\u2003\t") ∧
      make "ratio" ⟨.like, true⟩ (.list [.float ⟨0x7ff8000000000000⟩]) =
        .error (.invalidOperator ⟨.like, true⟩ (.notSingle "list")) ∧
      powers.perform firstOpen = .error (.invalidValue "ratio" "float is not finite") ∧
      (Addition.andLike " name " "%").perform firstOpen =
        .ok ⟨[⟨.or, .condition ⟨"done", .plain .eq, .scalar (.bool false)⟩⟩,
          ⟨.and, .condition ⟨" name ", .plain .like, .scalar (.text "%")⟩⟩], none, [], some 1⟩ := by
  obtain ⟨refused, _, calls⟩ := refused_or_made
  have seen : ∃ c ∈ "ratio".toList, c.toNat ∉ Text.spacePoints := ⟨'r', by decide, by decide⟩
  have fits : ∀ fault, ¬ powers.asked.value.Misfits powers.asked.op fault :=
    Value.shapeFault?_eq_none_iff.mp rfl
  have held : .float ⟨0xfff0000000000000⟩ ∈ powers.asked.value.held := by decide
  have faultless (fault : QueryError) : ¬ (Addition.andLike " name " "%").Refused fault :=
    fun refused => nomatch refused.make
  exact ⟨(refused _ _ _ _).mpr (.column (Text.isBlank_iff.mp (by decide))),
    (refused _ _ _ _).mpr (.shape seen (.list _ (by decide))),
    ((calls powers firstOpen).1 _).mpr (.number seen fits held (.inr (by decide))),
    ((calls _ firstOpen).2 _).mpr ⟨faultless, rfl⟩⟩

end Criteria
