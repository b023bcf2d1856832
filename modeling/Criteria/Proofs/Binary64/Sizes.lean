import Criteria.Binary64.Rounding
import Mathlib.Algebra.Order.Field.Rat
import Mathlib.Algebra.Order.Ring.Abs
import Mathlib.Tactic.FieldSimp
import Mathlib.Tactic.Linarith
import Mathlib.Tactic.Positivity
import Mathlib.Tactic.Ring

namespace Criteria.Binary64

theorem unitsOf_scaled {significand shift : Nat} (short : significand ≤ 2 ^ 53)
    (normal : shift = 0 ∨ 2 ^ 52 ≤ significand) :
    unitsOf (shift * 2 ^ 52 + significand) = significand * 2 ^ shift := by
  have split : significand < 2 ^ 52 ∨ 2 ^ 52 ≤ significand ∧ significand < 2 ^ 53 ∨
      significand = 2 ^ 53 := by omega
  simp only [unitsOf, Nat.pow_eq]
  rcases split with subnormal | ⟨normal, short⟩ | rfl
  · obtain rfl : shift = 0 := by omega
    have field : (0 * 2 ^ 52 + significand) / 2 ^ 52 = 0 := by omega
    have fraction : (0 * 2 ^ 52 + significand) % 2 ^ 52 = significand := by omega
    rw [field, fraction, if_pos rfl, pow_zero, Nat.mul_one]
  · have field : (shift * 2 ^ 52 + significand) / 2 ^ 52 = shift + 1 := by omega
    have fraction : 2 ^ 52 + (shift * 2 ^ 52 + significand) % 2 ^ 52 = significand := by omega
    rw [field, if_neg (Nat.succ_ne_zero shift), fraction, Nat.add_sub_cancel]
  · have field : (shift * 2 ^ 52 + 2 ^ 53) / 2 ^ 52 = shift + 2 := by omega
    have fraction : (shift * 2 ^ 52 + 2 ^ 53) % 2 ^ 52 = 0 := by omega
    rw [field, fraction, if_neg (Nat.succ_ne_zero (shift + 1))]
    show (2 ^ 52 + 0) * 2 ^ (shift + 1) = 2 ^ 53 * 2 ^ shift
    rw [pow_succ 2 shift]
    omega

theorem exists_scaled (magnitude : Nat) : ∃ significand shift, significand < 2 ^ 53 ∧
    (shift = 0 ∨ 2 ^ 52 ≤ significand) ∧ magnitude = shift * 2 ^ 52 + significand :=
  ⟨magnitude - (magnitude / 2 ^ 52 - 1) * 2 ^ 52, magnitude / 2 ^ 52 - 1, by omega, by omega,
    by omega⟩

theorem unitsOf_lt_succ (magnitude : Nat) : unitsOf magnitude < unitsOf (magnitude + 1) := by
  obtain ⟨significand, shift, short, normal, rfl⟩ := exists_scaled magnitude
  have normal' : shift = 0 ∨ 2 ^ 52 ≤ significand + 1 := by omega
  rw [unitsOf_scaled short.le normal, Nat.add_assoc, unitsOf_scaled short normal']
  exact Nat.mul_lt_mul_of_pos_right significand.lt_succ_self (Nat.two_pow_pos shift)

theorem strictMono_unitsOf : StrictMono unitsOf :=
  strictMono_nat_of_lt_succ unitsOf_lt_succ

theorem unitsOf_zero : unitsOf 0 = 0 :=
  rfl

theorem one_eq : one = 2 ^ 1074 := by
  unfold one
  generalize 1074 = exponent
  rfl

theorem unitsOf_infinity : unitsOf infinity = 2 ^ 1024 * one := by
  have split : infinity = 2046 * 2 ^ 52 + 2 ^ 52 := by decide
  have exponents : 52 + 2046 = 1024 + 1074 := rfl
  rw [split, unitsOf_scaled (by decide) (.inr (Nat.le_refl _)), one_eq, ← pow_add, ← pow_add,
    exponents]

/-- The size lies between the midpoints to the neighbours of the magnitude. The midpoints
themselves belong to the even magnitudes. -/
structure Covers (magnitude : Nat) (size : ℚ) : Prop where
  low : (unitsOf (magnitude - 1) + unitsOf magnitude : ℚ) ≤ 2 * size
  high : 2 * size ≤ (unitsOf magnitude + unitsOf (magnitude + 1) : ℚ)
  inside : magnitude % 2 = 1 → (unitsOf (magnitude - 1) + unitsOf magnitude : ℚ) < 2 * size ∧
    2 * size < (unitsOf magnitude + unitsOf (magnitude + 1) : ℚ)

section

variable {magnitude other : Nat} {size : ℚ}

theorem cast_unitsOf_le (le : magnitude ≤ other) : (unitsOf magnitude : ℚ) ≤ unitsOf other :=
  Nat.cast_le.mpr (strictMono_unitsOf.monotone le)

theorem cast_unitsOf_lt (lt : magnitude < other) : (unitsOf magnitude : ℚ) < unitsOf other :=
  Nat.cast_lt.mpr (strictMono_unitsOf lt)

theorem covers_iff : Covers magnitude size ↔
    if magnitude % 2 = 0 then
      (unitsOf (magnitude - 1) + unitsOf magnitude : ℚ) ≤ 2 * size ∧
        2 * size ≤ unitsOf magnitude + unitsOf (magnitude + 1)
    else
      (unitsOf (magnitude - 1) + unitsOf magnitude : ℚ) < 2 * size ∧
        2 * size < unitsOf magnitude + unitsOf (magnitude + 1) := by
  split
  case isTrue even =>
    exact ⟨fun covers => ⟨covers.low, covers.high⟩,
      fun between => ⟨between.1, between.2, fun odd => by omega⟩⟩
  case isFalse odd =>
    exact ⟨fun covers => covers.inside (by omega),
      fun between => ⟨between.1.le, between.2.le, fun _ => between⟩⟩

theorem covers_unitsOf (magnitude : Nat) : Covers magnitude (unitsOf magnitude : ℚ) := by
  have below := cast_unitsOf_le (magnitude.sub_le 1)
  have above := cast_unitsOf_lt magnitude.lt_succ_self
  refine ⟨by linarith, by linarith, fun odd => ?_⟩
  have apart := cast_unitsOf_lt (show magnitude - 1 < magnitude by omega)
  exact ⟨by linarith, by linarith⟩

theorem Covers.between {low high : ℚ} (lower : Covers magnitude low) (upper : Covers magnitude high)
    (above : low ≤ size) (below : size ≤ high) : Covers magnitude size where
  low := by linarith [lower.low]
  high := by linarith [upper.high]
  inside odd := ⟨by linarith [(lower.inside odd).1], by linarith [(upper.inside odd).2]⟩

theorem Covers.le_of_covers (covers : Covers magnitude size) (also : Covers other size) :
    magnitude ≤ other := by
  by_contra lt
  rw [not_le] at lt
  have above := cast_unitsOf_le (show other + 1 ≤ magnitude from lt)
  have below := cast_unitsOf_le (show other ≤ magnitude - 1 by omega)
  have adjacent : magnitude = other + 1 := by
    by_contra apart
    have beyond := cast_unitsOf_lt (show other + 1 < magnitude by omega)
    linarith [covers.low, also.high]
  -- Both would have to be even.
  subst adjacent
  rcases Nat.mod_two_eq_zero_or_one other with even | odd
  · linarith [(covers.inside (by omega)).1, also.high]
  · linarith [covers.low, (also.inside odd).2]

theorem Covers.unique (covers : Covers magnitude size) (also : Covers other size) :
    magnitude = other :=
  Nat.le_antisymm (covers.le_of_covers also) (also.le_of_covers covers)

theorem Covers.pos (covers : Covers magnitude size) (nonzero : magnitude ≠ 0) : 0 < size := by
  have above := cast_unitsOf_lt (Nat.pos_of_ne_zero nonzero)
  rw [unitsOf_zero, Nat.cast_zero] at above
  have below := cast_unitsOf_le (magnitude - 1).zero_le
  rw [unitsOf_zero, Nat.cast_zero] at below
  linarith [covers.low]

theorem Covers.le_of_unitsOf_le (covers : Covers magnitude size)
    (beyond : (unitsOf other : ℚ) ≤ size) : other ≤ magnitude := by
  by_contra lt
  rw [not_le] at lt
  have below := cast_unitsOf_lt lt
  have above := cast_unitsOf_le (show magnitude + 1 ≤ other from lt)
  linarith [covers.high]

end

theorem covers_nearer {magnitude : Nat} {size : ℚ} (above : (unitsOf magnitude : ℚ) ≤ size)
    (below : size < unitsOf (magnitude + 1)) :
    Covers (if 2 * size < unitsOf magnitude + unitsOf (magnitude + 1) ∨
        2 * size = unitsOf magnitude + unitsOf (magnitude + 1) ∧ magnitude % 2 = 0
      then magnitude else magnitude + 1) size := by
  have before := cast_unitsOf_le (magnitude.sub_le 1)
  have beyond := cast_unitsOf_lt (magnitude + 1).lt_succ_self
  split
  case isTrue nearer =>
    refine ⟨by linarith, ?_, fun odd => ⟨?_, ?_⟩⟩
    · rcases nearer with nearer | ⟨tie, _⟩ <;> linarith
    · linarith [cast_unitsOf_lt (show magnitude - 1 < magnitude by omega)]
    · exact nearer.resolve_right fun tie => by omega
  case isFalse farther =>
    rw [not_or, not_lt] at farther
    refine ⟨farther.1, by linarith, fun odd => ⟨?_, by linarith⟩⟩
    exact lt_of_le_of_ne farther.1 fun tie => farther.2 ⟨tie.symm, by omega⟩

theorem roundHalfEven_eq {numerator denominator : Nat} :
    roundHalfEven numerator denominator =
      if 2 * numerator < (2 * (numerator / denominator) + 1) * denominator ∨
        2 * numerator = (2 * (numerator / denominator) + 1) * denominator ∧
          numerator / denominator % 2 = 0
      then numerator / denominator else numerator / denominator + 1 := by
  have whole := Nat.div_add_mod numerator denominator
  have expand : (2 * (numerator / denominator) + 1) * denominator =
      2 * (denominator * (numerator / denominator)) + denominator := by
    rw [Nat.add_mul, Nat.one_mul, Nat.mul_assoc, Nat.mul_comm denominator]
  simp only [roundHalfEven]
  congr 1
  rw [expand, eq_iff_iff]
  omega

/-- The whole part of the ratio, in steps of its exponent field, is a significand. -/
theorem exists_significand (numerator denominator : Nat) :
    ∃ significand shift, significand < 2 ^ 53 ∧ (shift = 0 ∨ 2 ^ 52 ≤ significand) ∧
      numerator / (denominator * 2 ^ shift) = significand ∧
      nearest numerator denominator = min (shift * 2 ^ 52 +
        roundHalfEven numerator (denominator * 2 ^ shift)) infinity := by
  let whole := numerator / denominator
  let shift := whole.log2 - 52
  refine ⟨numerator / (denominator * 2 ^ shift), shift, ?_, ?_, rfl, rfl⟩
  · rw [← Nat.div_div_eq_div_mul, Nat.div_lt_iff_lt_mul (Nat.two_pow_pos shift), ← pow_add]
    calc whole < 2 ^ (whole.log2 + 1) := Nat.lt_log2_self
      _ ≤ 2 ^ (53 + shift) := Nat.pow_le_pow_right (by decide) (by omega)
  · refine (Nat.eq_zero_or_pos shift).imp_right fun shifted => ?_
    have nonzero : whole ≠ 0 := by
      intro none
      simp [shift, none] at shifted
    rw [← Nat.div_div_eq_div_mul, Nat.le_div_iff_mul_le (Nat.two_pow_pos shift), ← pow_add]
    calc 2 ^ (52 + shift) = 2 ^ whole.log2 := by congr 1; omega
      _ ≤ whole := Nat.log2_self_le nonzero

theorem exists_covers (numerator : Nat) {denominator : Nat} (positive : 0 < denominator) :
    ∃ magnitude, Covers magnitude (numerator / denominator : ℚ) ∧
      nearest numerator denominator = min magnitude infinity := by
  obtain ⟨significand, shift, short, normal, whole, rounded⟩ :=
    exists_significand numerator denominator
  have positive' : (0 : ℚ) < denominator := Nat.cast_pos.mpr positive
  have step : 0 < denominator * 2 ^ shift := Nat.mul_pos positive (Nat.two_pow_pos shift)
  have low := unitsOf_scaled short.le normal
  have high : unitsOf (shift * 2 ^ 52 + (significand + 1)) = (significand + 1) * 2 ^ shift :=
    unitsOf_scaled short (normal.imp_right (by omega))
  rw [← Nat.add_assoc] at high
  have above : (unitsOf (shift * 2 ^ 52 + significand) : ℚ) ≤ numerator / denominator := by
    rw [le_div_iff₀ positive', low, ← Nat.cast_mul, Nat.cast_le, Nat.mul_assoc,
      Nat.mul_comm (2 ^ shift), ← whole]
    exact Nat.div_mul_le_self numerator _
  have below : (numerator / denominator : ℚ) < unitsOf (shift * 2 ^ 52 + significand + 1) := by
    rw [div_lt_iff₀ positive', high, ← Nat.cast_mul, Nat.cast_lt, Nat.mul_assoc,
      Nat.mul_comm (2 ^ shift), ← Nat.div_lt_iff_lt_mul step, whole]
    exact significand.lt_succ_self
  have middle : (unitsOf (shift * 2 ^ 52 + significand) +
      unitsOf (shift * 2 ^ 52 + significand + 1) : ℚ) * denominator =
      ((2 * significand + 1) * (denominator * 2 ^ shift) : Nat) := by
    rw [low, high]
    push_cast
    ring
  have nearer : 2 * numerator < (2 * significand + 1) * (denominator * 2 ^ shift) ↔
      2 * (numerator / denominator : ℚ) < unitsOf (shift * 2 ^ 52 + significand) +
        unitsOf (shift * 2 ^ 52 + significand + 1) := by
    rw [← mul_div_assoc, div_lt_iff₀ positive', middle]
    exact_mod_cast Iff.rfl
  have tie : 2 * numerator = (2 * significand + 1) * (denominator * 2 ^ shift) ↔
      2 * (numerator / denominator : ℚ) = unitsOf (shift * 2 ^ 52 + significand) +
        unitsOf (shift * 2 ^ 52 + significand + 1) := by
    rw [← mul_div_assoc, div_eq_iff positive'.ne', middle]
    exact_mod_cast Iff.rfl
  have parity : (shift * 2 ^ 52 + significand) % 2 = significand % 2 := by omega
  refine ⟨_, covers_nearer above below, rounded.trans ?_⟩
  simp only [roundHalfEven_eq, whole, nearer, tie, parity]
  split
  · rfl
  · rw [Nat.add_assoc]

section

variable {magnitude numerator denominator : Nat}

theorem nearest_eq_iff (positive : 0 < denominator) (finite : magnitude < infinity) :
    nearest numerator denominator = magnitude ↔
      Covers magnitude (numerator / denominator : ℚ) := by
  obtain ⟨rounded, covers, same⟩ := exists_covers numerator positive
  rw [same]
  constructor
  · intro smaller
    obtain rfl : rounded = magnitude := by omega
    exact covers
  · intro also
    rw [covers.unique also, Nat.min_eq_left finite.le]

theorem nearest_of_twice_le (positive : 0 < denominator) (small : 2 * numerator ≤ denominator) :
    nearest numerator denominator = 0 := by
  have small' : 2 * (numerator / denominator : ℚ) ≤ 1 := by
    rw [← mul_div_assoc, div_le_one (Nat.cast_pos.mpr positive)]
    exact_mod_cast small
  have first : unitsOf (0 + 1) = 1 := rfl
  refine (nearest_eq_iff positive (by decide)).mpr ⟨?_, ?_, fun odd => absurd odd (by decide)⟩
  · rw [Nat.zero_sub, unitsOf_zero, Nat.cast_zero, add_zero]
    positivity
  · simpa [unitsOf_zero, first] using small'

theorem nearest_of_infinity_le (positive : 0 < denominator)
    (large : unitsOf infinity * denominator ≤ numerator) :
    nearest numerator denominator = infinity := by
  obtain ⟨rounded, covers, same⟩ := exists_covers numerator positive
  have beyond : (unitsOf infinity : ℚ) ≤ numerator / denominator := by
    rw [le_div_iff₀ (Nat.cast_pos.mpr positive)]
    exact_mod_cast large
  rw [same, Nat.min_eq_right (covers.le_of_unitsOf_le beyond)]

end

/-- The magnitude is nearest to the size among all, the even one of two that are equally near. The
infinity takes part as the number that would follow the largest. -/
structure Nearest (magnitude : Nat) (size : ℚ) : Prop where
  le : ∀ other ≤ infinity, |size - unitsOf magnitude| ≤ |size - unitsOf other|
  even : ∀ other ≤ infinity, other ≠ magnitude →
    |size - unitsOf other| = |size - unitsOf magnitude| → magnitude % 2 = 0

section

variable {low high size : ℚ}

theorem abs_sub_low_le_iff (apart : low < high) :
    |size - low| ≤ |size - high| ↔ 2 * size ≤ low + high := by
  constructor
  · intro nearer
    by_contra beyond
    rw [← sq_le_sq] at nearer
    nlinarith
  · intro below
    rw [← sq_le_sq]
    nlinarith

theorem abs_sub_high_le_iff (apart : low < high) :
    |size - high| ≤ |size - low| ↔ low + high ≤ 2 * size := by
  constructor
  · intro nearer
    by_contra beyond
    rw [← sq_le_sq] at nearer
    nlinarith
  · intro above
    rw [← sq_le_sq]
    nlinarith

end

section

variable {magnitude : Nat} {size : ℚ}

theorem Covers.nearest (covers : Covers magnitude size) : Nearest magnitude size where
  le other _ := by
    rcases lt_trichotomy other magnitude with before | rfl | beyond
    · rw [abs_sub_high_le_iff (cast_unitsOf_lt before)]
      linarith [covers.low, cast_unitsOf_le (show other ≤ magnitude - 1 by omega)]
    · exact le_rfl
    · rw [abs_sub_low_le_iff (cast_unitsOf_lt beyond)]
      linarith [covers.high, cast_unitsOf_le (show magnitude + 1 ≤ other from beyond)]
  even other _ distinct tie := by
    by_contra odd
    have inside := covers.inside (by omega)
    rcases Nat.lt_or_gt_of_ne distinct with before | beyond
    · have below := (abs_sub_low_le_iff (cast_unitsOf_lt before)).mp tie.le
      linarith [cast_unitsOf_le (show other ≤ magnitude - 1 by omega)]
    · have above := (abs_sub_high_le_iff (cast_unitsOf_lt beyond)).mp tie.le
      linarith [cast_unitsOf_le (show magnitude + 1 ≤ other from beyond)]

theorem Nearest.covers (nearest : Nearest magnitude size) (finite : magnitude < infinity)
    (positive : 0 ≤ size) : Covers magnitude size := by
  have apart := cast_unitsOf_lt magnitude.lt_succ_self
  have high := (abs_sub_low_le_iff apart).mp (nearest.le (magnitude + 1) finite)
  rcases Nat.eq_zero_or_pos magnitude with rfl | nonzero
  · exact ⟨by simpa [unitsOf_zero] using positive, high, fun odd => by omega⟩
  have apart' := cast_unitsOf_lt (show magnitude - 1 < magnitude by omega)
  have low := (abs_sub_high_le_iff apart').mp (nearest.le (magnitude - 1) (by omega))
  refine ⟨low, high, fun odd =>
    ⟨lt_of_le_of_ne low fun tie => ?_, lt_of_le_of_ne high fun tie => ?_⟩⟩
  · have farther := (abs_sub_low_le_iff apart').mpr tie.ge
    have even := nearest.even (magnitude - 1) (by omega) (by omega)
      (farther.antisymm (nearest.le _ (by omega)))
    omega
  · have farther := (abs_sub_high_le_iff apart).mpr tie.ge
    have even := nearest.even (magnitude + 1) finite (by omega)
      (farther.antisymm (nearest.le _ finite))
    omega

end

end Criteria.Binary64
