import Criteria.Binary64.Digits
import Criteria.Proofs.Binary64.Sizes
import Mathlib.Algebra.Order.Field.Power

namespace Criteria.Binary64

/-- The digits of a whole number up to the last one that is not a zero. -/
def significant (n : Nat) : List Char :=
  ((Nat.toDigits 10 n).reverse.dropWhile (· = '0')).reverse

theorem toDigits_mul_ten_pow {n : Nat} (positive : 0 < n) (places : Nat) :
    Nat.toDigits 10 (n * 10 ^ places) = Nat.toDigits 10 n ++ List.replicate places '0' := by
  induction places with
  | zero => simp
  | succ places ih =>
      have raised : n * 10 ^ (places + 1) = 10 * (n * 10 ^ places) + 0 := by rw [pow_succ]; ring
      have digits := Nat.toDigits_append_toDigits (b := 10) (d := 0) (by decide)
        (Nat.mul_pos positive (Nat.pow_pos (n := places) (by decide : 0 < 10))) (by decide)
      rw [raised, ← digits, ih, List.append_assoc, List.replicate_succ']
      rfl

theorem significant_zero : significant 0 = [] := by
  decide

theorem significant_mul_ten_pow (n places : Nat) :
    significant (n * 10 ^ places) = significant n := by
  rcases Nat.eq_zero_or_pos n with rfl | positive
  · rw [Nat.zero_mul]
  · rw [significant, toDigits_mul_ten_pow positive, List.reverse_append, List.reverse_replicate,
      List.dropWhile_append_of_pos, significant]
    intro c member
    simpa using List.eq_of_mem_replicate member

theorem length_significant_le {n length : Nat} (small : n < 10 ^ length) :
    (significant n).length ≤ length := by
  rcases Nat.eq_zero_or_pos length with rfl | positive
  · obtain rfl : n = 0 := by simpa using small
    rw [significant_zero, List.length_nil]
  · rw [significant, List.length_reverse]
    calc _ ≤ (Nat.toDigits 10 n).reverse.length := (List.dropWhile_sublist _).length_le
      _ = (Nat.toDigits 10 n).length := List.length_reverse
      _ ≤ length := (Nat.length_toDigits_le_iff (by decide) positive).mpr small

theorem length_significant_le_of_le {n length : Nat} (positive : 0 < length)
    (small : n ≤ 10 ^ length) : (significant n).length ≤ length := by
  rcases small.lt_or_eq with small | rfl
  · exact length_significant_le small
  · rw [← Nat.one_mul (10 ^ length), significant_mul_ten_pow]
    exact (length_significant_le (show 1 < 10 ^ 1 by decide)).trans positive

theorem exists_toDigits_eq (n : Nat) :
    ∃ zeros, Nat.toDigits 10 n = significant n ++ List.replicate zeros '0' := by
  let ending := (Nat.toDigits 10 n).reverse.takeWhile (· = '0')
  have zeros : ending = List.replicate ending.length '0' := by
    refine List.eq_replicate_iff.mpr ⟨rfl, fun c member => ?_⟩
    simpa using List.all_eq_true.mp List.all_takeWhile c member
  refine ⟨ending.length, ?_⟩
  rw [← List.reverse_inj, List.reverse_append, List.reverse_replicate, ← zeros, significant,
    List.reverse_reverse, List.takeWhile_append_dropWhile]

/-- A whole number falls apart into one of as many digits as are significant and a power of ten. -/
theorem exists_eq_mul_ten_pow (n : Nat) : ∃ zeros,
    n = Nat.ofDigitChars 10 (significant n) 0 * 10 ^ zeros ∧
      (Nat.toDigits 10 n).length = (significant n).length + zeros ∧
      Nat.ofDigitChars 10 (significant n) 0 < 10 ^ (significant n).length := by
  obtain ⟨zeros, split⟩ := exists_toDigits_eq n
  have value : n = Nat.ofDigitChars 10 (significant n) 0 * 10 ^ zeros :=
    calc n = Nat.ofDigitChars 10 (Nat.toDigits 10 n) 0 := Nat.ofDigitChars_ten_toDigits.symm
      _ = 10 ^ zeros * Nat.ofDigitChars 10 (significant n) 0 := by
        rw [split, Nat.ofDigitChars_append, Nat.ofDigitChars_replicate_zero]
      _ = _ := Nat.mul_comm _ _
  have length : (Nat.toDigits 10 n).length = (significant n).length + zeros := by
    rw [split, List.length_append, List.length_replicate]
  have below : n < 10 ^ (Nat.toDigits 10 n).length :=
    (Nat.length_toDigits_le_iff (by decide) Nat.length_toDigits_pos).mp le_rfl
  rw [length, pow_add] at below
  exact ⟨zeros, value, length, Nat.lt_of_mul_lt_mul_right (value.symm.trans_lt below)⟩

theorem significant_ne_nil {n : Nat} (nonzero : n ≠ 0) : significant n ≠ [] := by
  intro none
  obtain ⟨zeros, value, -⟩ := exists_eq_mul_ten_pow n
  rw [none, Nat.ofDigitChars_nil, Nat.zero_mul] at value
  exact nonzero value

/-- The units in a whole number of a decimal place. The last place of finite numbers is the
zeroth. -/
def placed (coefficient : Nat) (place : Int) : ℚ :=
  coefficient * 10 ^ place / 5 ^ decimalPlaces

section

variable {coefficient other : Nat} {place : Int}

theorem placed_le (le : coefficient ≤ other) : placed coefficient place ≤ placed other place := by
  have cast : (coefficient : ℚ) ≤ other := Nat.cast_le.mpr le
  unfold placed
  gcongr

theorem placed_le_of_lt_pow {length : Nat} {above : Int} (small : coefficient < 10 ^ length)
    (le : length + place ≤ above) : placed coefficient place ≤ placed 1 above := by
  have cast : (coefficient : ℚ) ≤ 10 ^ length := mod_cast small.le
  have scaled : (coefficient * 10 ^ place : ℚ) ≤ (1 : Nat) * 10 ^ above :=
    calc (coefficient * 10 ^ place : ℚ) ≤ 10 ^ length * 10 ^ place := by gcongr
      _ = 10 ^ (length + place) := by rw [zpow_add₀ (by norm_num), zpow_natCast]
      _ ≤ 10 ^ above := zpow_le_zpow_right₀ (by norm_num) le
      _ = (1 : Nat) * 10 ^ above := by rw [Nat.cast_one, one_mul]
  unfold placed
  gcongr

theorem placed_mul_ten_pow (coefficient places : Nat) (place : Int) :
    placed (coefficient * 10 ^ places) place = placed coefficient (place + places) := by
  rw [placed, placed, zpow_add₀ (by norm_num), zpow_natCast]
  push_cast
  ring

theorem placed_decimal (magnitude : Nat) : placed (decimal magnitude) 0 = unitsOf magnitude := by
  rw [placed, decimal, Nat.pow_eq, zpow_zero, mul_one, Nat.cast_mul, Nat.cast_pow, Nat.cast_ofNat,
    mul_div_cancel_right₀ _ (by positivity)]

end

theorem readsBack_iff {magnitude candidate place : Nat} :
    readsBack magnitude candidate place = true ↔ Covers magnitude (placed candidate place) := by
  have scale : (0 : ℚ) < 5 ^ decimalPlaces := by positivity
  have twice : 2 * placed candidate place =
      (2 * (candidate * 10 ^ place) : Nat) / 5 ^ decimalPlaces := by
    rw [placed, zpow_natCast]
    push_cast
    ring
  have sum (lower upper : Nat) : (unitsOf lower + unitsOf upper : ℚ) =
      (decimal lower + decimal upper : Nat) / 5 ^ decimalPlaces := by
    rw [eq_div_iff scale.ne']
    simp only [decimal, Nat.pow_eq]
    push_cast
    ring
  simp only [covers_iff, twice, sum, div_le_div_iff_of_pos_right scale,
    div_lt_div_iff_of_pos_right scale, Nat.cast_le, Nat.cast_lt]
  rw [readsBack]
  split <;> simp only [Nat.pow_eq, decide_eq_true_eq]

section

variable {magnitude coefficient place : Nat}

theorem placed_floor_le (magnitude place : Nat) :
    placed (decimal magnitude / 10 ^ place) place ≤ unitsOf magnitude := by
  rw [← placed_decimal, ← Int.zero_add (place : Int), ← placed_mul_ten_pow]
  exact placed_le (Nat.div_mul_le_self _ _)

theorem le_placed_ceiling (magnitude place : Nat) :
    (unitsOf magnitude : ℚ) ≤ placed (decimal magnitude / 10 ^ place + 1) place := by
  rw [← placed_decimal, ← Int.zero_add (place : Int), ← placed_mul_ten_pow]
  exact placed_le (Nat.lt_mul_of_div_lt (Nat.lt_succ_self _) (Nat.pow_pos (by decide))).le

theorem onGrid?_eq_some (found : onGrid? magnitude place = some coefficient) :
    Covers magnitude (placed coefficient place) ∧
      coefficient ≤ decimal magnitude / 10 ^ place + 1 := by
  simp only [onGrid?, Nat.pow_eq] at found
  split at found
  case h_1 below above =>
    split at found <;> cases found
    · exact ⟨readsBack_iff.mp below, Nat.le_succ _⟩
    · exact ⟨readsBack_iff.mp above, Nat.le_refl _⟩
  case h_2 below _ =>
    cases found
    exact ⟨readsBack_iff.mp below, Nat.le_succ _⟩
  case h_3 _ above =>
    cases found
    exact ⟨readsBack_iff.mp above, Nat.le_refl _⟩
  case h_4 => cases found

theorem onGrid?_eq_none (none : onGrid? magnitude place = none) (candidate : Nat) :
    ¬ Covers magnitude (placed candidate place) := by
  intro covers
  have self := covers_unitsOf magnitude
  have neither : readsBack magnitude (decimal magnitude / 10 ^ place) place = false ∧
      readsBack magnitude (decimal magnitude / 10 ^ place + 1) place = false := by
    simp only [onGrid?, Nat.pow_eq] at none
    split at none
    case h_4 below above => exact ⟨below, above⟩
    all_goals cases none
  rcases Nat.lt_or_ge (decimal magnitude / 10 ^ place) candidate with above | below
  · have reads := readsBack_iff.mpr
      (self.between covers (le_placed_ceiling magnitude place) (placed_le above))
    rw [neither.2] at reads
    cases reads
  · have reads := readsBack_iff.mpr
      (covers.between self (placed_le below) (placed_floor_le magnitude place))
    rw [neither.1] at reads
    cases reads

theorem shortestFrom_spec (magnitude start : Nat) :
    let found := shortestFrom magnitude start
    found.2 ≤ start ∧ Covers magnitude (placed found.1 found.2) ∧
      found.1 ≤ decimal magnitude / 10 ^ found.2 + 1 ∧
      ∀ place candidate : Nat, found.2 < place → place ≤ start →
        ¬ Covers magnitude (placed candidate place) := by
  induction start with
  | zero =>
      refine ⟨Nat.le_refl _, ?_, by simp [shortestFrom], fun place _ finer coarsest => by omega⟩
      show Covers magnitude (placed (decimal magnitude) 0)
      rw [placed_decimal]
      exact covers_unitsOf magnitude
  | succ start ih =>
      rw [shortestFrom]
      split
      case h_1 coefficient found =>
        exact ⟨Nat.le_refl _, (onGrid?_eq_some found).1, (onGrid?_eq_some found).2,
          fun place _ finer coarsest => by omega⟩
      case h_2 none =>
        obtain ⟨finer, covers, near, coarser⟩ := ih
        refine ⟨finer.trans (Nat.le_succ start), covers, near, fun place candidate beyond le => ?_⟩
        rcases Nat.le_succ_iff.mp le with le | rfl
        · exact coarser place candidate beyond le
        · exact onGrid?_eq_none none candidate

end

section

variable {magnitude : Nat}

/-- The coarsest place that is searched: that of the first digit. -/
def coarsest (magnitude : Nat) : Nat :=
  (Nat.toDigits 10 (decimal magnitude)).length - 1

theorem decimal_pos (nonzero : magnitude ≠ 0) : 0 < decimal magnitude := by
  rw [decimal, Nat.pow_eq]
  exact Nat.mul_pos (strictMono_unitsOf (Nat.pos_of_ne_zero nonzero)) (Nat.pow_pos (by decide))

theorem pow_coarsest_le (nonzero : magnitude ≠ 0) :
    10 ^ coarsest magnitude ≤ decimal magnitude := by
  rcases Nat.eq_zero_or_pos (coarsest magnitude) with first | positive
  · rw [first]
    exact decimal_pos nonzero
  · by_contra below
    rw [not_le, ← Nat.length_toDigits_le_iff (by decide) positive] at below
    unfold coarsest at below positive
    omega

theorem lt_pow_coarsest (magnitude : Nat) : decimal magnitude < 10 ^ (coarsest magnitude + 1) := by
  rw [← Nat.length_toDigits_le_iff (by decide) (Nat.succ_pos _), coarsest]
  omega

theorem length_significant_shortestFrom_le (nonzero : magnitude ≠ 0) {coefficient : Nat}
    {place : Int} (covers : Covers magnitude (placed coefficient place)) :
    (significant (shortestFrom magnitude (coarsest magnitude)).1).length ≤
      (significant coefficient).length := by
  obtain ⟨within, -, near, none⟩ := shortestFrom_spec magnitude (coarsest magnitude)
  generalize shortestFrom magnitude (coarsest magnitude) = found at within near none ⊢
  have given : coefficient ≠ 0 := by
    rintro rfl
    simpa [placed] using covers.pos nonzero
  obtain ⟨zeros, value, -, short⟩ := exists_eq_mul_ten_pow coefficient
  generalize Nat.ofDigitChars 10 (significant coefficient) 0 = digits at value short
  have digit := List.length_pos_iff.mpr (significant_ne_nil given)
  rw [value, placed_mul_ten_pow] at covers
  have few : found.1 ≤ 10 ^ (coarsest magnitude + 1 - found.2) := by
    refine near.trans (Nat.div_lt_of_lt_mul ?_)
    rw [← pow_add, Nat.add_sub_cancel' (by omega)]
    exact lt_pow_coarsest magnitude
  refine (length_significant_le_of_le (by omega) few).trans ?_
  by_contra fewer
  -- The places above the one found hold nothing, so the decimal lies below the first digit.
  have finer : place + zeros ≤ found.2 := by
    by_contra beyond
    rcases lt_or_ge (coarsest magnitude : Int) (place + zeros) with outside | inside
    · obtain ⟨more, split⟩ := Int.le.dest outside.le
      rw [← split, ← placed_mul_ten_pow] at covers
      exact none _ _ (by omega) (Nat.le_refl _) covers
    · obtain ⟨same, split⟩ := Int.eq_ofNat_of_zero_le (show 0 ≤ place + zeros by omega)
      rw [split] at covers
      exact none same _ (by omega) (by omega) covers
  have below : placed digits (place + zeros) ≤ placed 1 (coarsest magnitude) :=
    placed_le_of_lt_pow short (by omega)
  have above : placed 1 (coarsest magnitude) ≤ unitsOf magnitude := by
    rw [← placed_decimal, ← Int.zero_add (coarsest magnitude : Int), ← placed_mul_ten_pow]
    exact placed_le (by simpa using pow_coarsest_le nonzero)
  exact none _ 1 (by omega) (Nat.le_refl _)
    (covers.between (covers_unitsOf magnitude) below above)

end

end Criteria.Binary64
