import Phrasebook.Decimal.Shortest
import Phrasebook.Proofs.Decimal.Rounding

/-!
The shortest digits of a binary number. The search for digits ends, at the latest, on a grid with
steps of a quarter of a unit of the last place, and the digits that it finds are rounded to the
number again.
-/

namespace Phrasebook.DecimalDigits

open Binary64

variable {m : Nat} {e p : Int}

/-- The number that digits stand for. -/
def value (d : DecimalDigits) : ℚ := d.digits * 10 ^ d.exponent

/-- The interval has the bounds of the fractions that are rounded to the number. -/
structure Interval.Bounds (i : Interval) (m : Nat) (e : Int) : Prop where
  positive : 0 < i.denominator
  low : (i.low : ℚ) = (m - halfBelow m e) * 2 ^ e * i.denominator
  value : (i.value : ℚ) = m * 2 ^ e * i.denominator
  high : (i.high : ℚ) = (m + 1 / 2) * 2 ^ e * i.denominator
  closed : i.closed = true ↔ m % 2 = 0

theorem bounds_intervalOf (filled : 0 < m) (e : Int) : (intervalOf m e).Bounds m e := by
  have positive := scaled_pos 1 Nat.two_pos (e - 2)
  have unit := scaled_eq 1 Nat.two_pos (e - 2)
  have form : intervalOf m e =
      ⟨(4 * m - if m = leastMantissa && decide (-1074 < e) then 1 else 2) * (scaled 1 2 (e - 2)).1,
        4 * m * (scaled 1 2 (e - 2)).1, (4 * m + 2) * (scaled 1 2 (e - 2)).1,
        (scaled 1 2 (e - 2)).2, m % 2 == 0⟩ := rfl
  rw [form]
  clear form
  generalize scaled 1 2 (e - 2) = parts at positive unit
  obtain ⟨n, d⟩ := parts
  have whole : (d : ℚ) ≠ 0 := Nat.cast_ne_zero.mpr (Nat.ne_of_gt positive)
  have quarter : (n : ℚ) = 2 ^ e / 4 * d := by
    rw [div_eq_iff whole, Nat.cast_one, one_mul, zpow_sub₀ (by norm_num)] at unit
    rw [unit]
    norm_num
  refine ⟨positive, ?_, ?_, ?_, by simp⟩
  · have below : ((4 * m - if m = leastMantissa && decide (-1074 < e) then 1 else 2 : Nat) : ℚ) =
        4 * (m - halfBelow m e) := by
      simp only [halfBelow, Bool.and_eq_true, decide_eq_true_eq]
      split
      · rw [Nat.cast_sub (by omega)]
        push_cast
        ring
      · rw [Nat.cast_sub (by omega)]
        push_cast
        ring
    rw [Nat.cast_mul, below, quarter]
    ring
  · push_cast
    rw [quarter]
    ring
  · push_cast
    rw [quarter]
    ring

section
variable {i : Interval} (bounds : i.Bounds m e)

include bounds

theorem Interval.Bounds.holds_iff {a b : Nat} (positive : 0 < b) :
    i.holds a b = true ↔ RoundsTo ((a : ℚ) / b) m e := by
  have unit : (0 : ℚ) < i.denominator := Nat.cast_pos.mpr bounds.positive
  have filled : (0 : ℚ) < b := Nat.cast_pos.mpr positive
  have low : ((i.low * b : Nat) : ℚ) = (m - halfBelow m e) * 2 ^ e * (i.denominator * b) := by
    rw [Nat.cast_mul, bounds.low, mul_assoc]
  have high : ((i.high * b : Nat) : ℚ) = (m + 1 / 2) * 2 ^ e * (i.denominator * b) := by
    rw [Nat.cast_mul, bounds.high, mul_assoc]
  have here : ((a * i.denominator : Nat) : ℚ) = (a : ℚ) / b * (i.denominator * b) := by
    rw [Nat.cast_mul]
    field_simp
  have common : (0 : ℚ) < i.denominator * b := by positivity
  have lowLe : i.low * b ≤ a * i.denominator ↔ (m - halfBelow m e) * 2 ^ e ≤ (a : ℚ) / b := by
    rw [← Nat.cast_le (α := ℚ), low, here, mul_le_mul_iff_left₀ common]
  have highLe : a * i.denominator ≤ i.high * b ↔ (a : ℚ) / b ≤ (m + 1 / 2) * 2 ^ e := by
    rw [← Nat.cast_le (α := ℚ), high, here, mul_le_mul_iff_left₀ common]
  have lowLt : i.low * b < a * i.denominator ↔ (m - halfBelow m e) * 2 ^ e < (a : ℚ) / b := by
    rw [← Nat.cast_lt (α := ℚ), low, here, mul_lt_mul_iff_left₀ common]
  have highLt : a * i.denominator < i.high * b ↔ (a : ℚ) / b < (m + 1 / 2) * 2 ^ e := by
    rw [← Nat.cast_lt (α := ℚ), high, here, mul_lt_mul_iff_left₀ common]
  unfold Interval.holds
  simp only
  split
  · rename_i closed
    have even := bounds.closed.mp closed
    simp only [Bool.and_eq_true, decide_eq_true_eq, lowLe, highLe]
    exact ⟨fun both => ⟨both.1, both.2, fun odd => by omega⟩, fun rounds =>
      ⟨rounds.low, rounds.high⟩⟩
  · rename_i opened
    have odd : m % 2 = 1 := by
      have := mt bounds.closed.mpr opened
      omega
    simp only [Bool.and_eq_true, decide_eq_true_eq, lowLt, highLt]
    exact ⟨fun both => ⟨both.1.le, both.2.le, fun _ => both⟩, fun rounds => rounds.strict odd⟩

/-- A point of the grid is in the interval if it is rounded to the number. -/
theorem Interval.Bounds.holds_scaled_iff (k : Nat) (p : Int) :
    i.holds (k * (scaled 1 10 p).1) (scaled 1 10 p).2 = true ↔ RoundsTo (k * 10 ^ p) m e := by
  rw [bounds.holds_iff (scaled_pos 1 (by decide) p), Nat.cast_mul, mul_div_assoc,
    scaled_eq 1 (by decide) p, Nat.cast_one, one_mul]
  rfl

/-- Digits that are found on a grid are rounded to the number. -/
theorem Interval.Bounds.roundsTo_of_onGrid? {digits : Nat} (found : onGrid? i p = some digits) :
    0 < digits ∧ RoundsTo (digits * 10 ^ p) m e := by
  have test := bounds.holds_scaled_iff (p := p)
  unfold onGrid? at found
  generalize scaled 1 10 p = parts at found test
  obtain ⟨step, parts⟩ := parts
  simp only at found test
  generalize i.value * parts / (i.denominator * step) = lower at found
  split at found
  · rename_i both
    simp only [Bool.and_eq_true, decide_eq_true_eq, test] at both
    obtain rfl := Option.some.inj found
    split
    · exact both.1
    · exact ⟨Nat.succ_pos _, both.2⟩
  · split at found
    · rename_i first
      simp only [Bool.and_eq_true, decide_eq_true_eq, test] at first
      obtain rfl := Option.some.inj found
      exact first
    · split at found
      · rename_i second
        rw [test] at second
        obtain rfl := Option.some.inj found
        exact ⟨Nat.succ_pos _, second⟩
      · cases found

/-- Some point is found on a grid that is fine enough. -/
theorem Interval.Bounds.isSome_onGrid? (filled : 0 < m) (fine : (10 : ℚ) ^ p * 4 ≤ 2 ^ e) :
    (onGrid? i p).isSome = true := by
  have test := bounds.holds_scaled_iff (p := p)
  have unit := scaled_eq 1 (show 0 < 10 by decide) p
  have positive := scaled_pos 1 (show 0 < 10 by decide) p
  have ten : (0 : ℚ) < 10 ^ p := by positivity
  unfold onGrid?
  generalize scaled 1 10 p = parts at test unit positive ⊢
  obtain ⟨step, parts⟩ := parts
  simp only at test unit positive ⊢
  have whole : (0 : ℚ) < parts := Nat.cast_pos.mpr positive
  have denominator : (0 : ℚ) < i.denominator := Nat.cast_pos.mpr bounds.positive
  rw [div_eq_iff whole.ne', Nat.cast_one, one_mul] at unit
  have stepPos : (0 : ℚ) < step := by
    rw [unit]
    positivity
  have grid : 0 < i.denominator * step :=
    Nat.mul_pos bounds.positive (by exact_mod_cast stepPos)
  have floor := Nat.div_mul_le_self (i.value * parts) (i.denominator * step)
  have ceiling := Nat.lt_mul_div_succ (i.value * parts) grid
  generalize i.value * parts / (i.denominator * step) = lower at floor ceiling ⊢
  -- The two points of the grid around the value, in whole numbers and as fractions.
  have common : (0 : ℚ) < i.denominator * parts := by positivity
  have below : (lower : ℚ) * 10 ^ p ≤ m * 2 ^ e := by
    have floor : (lower : ℚ) * (i.denominator * step) ≤ i.value * parts := by exact_mod_cast floor
    rw [unit, bounds.value] at floor
    refine le_of_mul_le_mul_right ?_ common
    push_cast at floor
    linarith
  have above : m * 2 ^ e < ((lower : ℚ) + 1) * 10 ^ p := by
    have ceiling : (i.value : ℚ) * parts < i.denominator * step * (lower + 1) := by
      exact_mod_cast ceiling
    rw [unit, bounds.value] at ceiling
    refine lt_of_mul_lt_mul_right ?_ common.le
    push_cast at ceiling
    linarith
  have one : (1 : ℚ) ≤ m := by exact_mod_cast filled
  have power : (0 : ℚ) < 2 ^ e := by positivity
  have first : 0 < lower := by
    by_contra none
    obtain rfl : lower = 0 := by omega
    rw [Nat.cast_zero, zero_add, one_mul] at above
    nlinarith
  have strict : (m - halfBelow m e) * 2 ^ e < lower * 10 ^ p ∧
      lower * 10 ^ p < ((m : ℚ) + 1 / 2) * 2 ^ e := by
    have quarter := (halfBelow_bounds m e).1
    constructor
    · nlinarith
    · nlinarith
  have found : (decide (0 < lower) && i.holds (lower * step) parts) = true := by
    rw [Bool.and_eq_true, decide_eq_true_eq, test]
    exact ⟨first, strict.1.le, strict.2.le, fun _ => strict⟩
  rw [found]
  cases i.holds ((lower + 1) * step) parts <;> rfl

end

/-- The search ends on the last grid that it comes to, if not before. -/
theorem search_eq {i : Interval} {n : Nat} (last : (onGrid? i (p - n)).isSome = true) :
    ∃ digits q, search i n p = (digits, q) ∧ onGrid? i q = some digits ∧ p - n ≤ q := by
  induction n generalizing p with
  | zero =>
    rw [Nat.cast_zero, sub_zero] at last
    obtain ⟨digits, found⟩ := Option.isSome_iff_exists.mp last
    exact ⟨digits, p, by rw [search, found]; rfl, found, by omega⟩
  | succ n ih =>
    rw [search]
    split
    · rename_i digits found
      exact ⟨digits, p, rfl, found, by omega⟩
    · rw [show p - (n + 1 : Nat) = p - 1 - n by push_cast; ring] at last
      obtain ⟨digits, q, done, found, le⟩ := ih last
      exact ⟨digits, q, done, found, by push_cast; omega⟩

/-- Zeros at the end move from the digits to the exponent. -/
theorem dropZeros_value (n digits : Nat) (exponent : Int) (filled : 0 < digits) :
    let d := dropZeros n digits exponent
    0 < d.digits ∧ d.digits ≤ digits ∧ d.value = digits * 10 ^ exponent := by
  induction n generalizing digits exponent with
  | zero => exact ⟨filled, Nat.le_refl _, rfl⟩
  | succ n ih =>
    rw [dropZeros]
    split
    · rename_i ends
      simp only [ne_eq, Bool.and_eq_true, decide_eq_true_eq, beq_iff_eq] at ends
      obtain ⟨least, most, value⟩ := ih (digits / 10) (exponent + 1) (by omega)
      refine ⟨least, by omega, ?_⟩
      have tens : (digits : ℚ) = 10 * (digits / 10 : Nat) := by
        exact_mod_cast (show digits = 10 * (digits / 10) by omega)
      rw [value, zpow_add_one₀ (by norm_num), tens]
      ring
    · exact ⟨filled, Nat.le_refl _, rfl⟩

/-- The powers of two and of ten that belong to each other, upwards and downwards. -/
theorem powers_near : ∀ n < 1075,
    10 ^ (n * 30103 / 100000) ≤ 2 * 2 ^ n ∧ 2 ^ n ≤ 20 * 10 ^ (n * 30103 / 100000) ∧
    2 ^ n ≤ 2 * 10 ^ ((n * 30103 + 99999) / 100000) ∧
    10 ^ ((n * 30103 + 99999) / 100000) ≤ 20 * 2 ^ n := by
  decide +kernel

/-- The decimal order of a power of two. -/
theorem order_bounds {k : Int} (low : -1074 ≤ k) (high : k ≤ 1074) :
    (10 : ℚ) ^ (k * 30103 / 100000) ≤ 2 * 2 ^ k ∧
      (2 : ℚ) ^ k ≤ 20 * 10 ^ (k * 30103 / 100000) := by
  rcases le_total 0 k with up | down
  · obtain ⟨n, rfl⟩ := Int.eq_ofNat_of_zero_le up
    obtain ⟨first, second, -, -⟩ := powers_near n (by omega)
    rw [show (n : Int) * 30103 / 100000 = (n * 30103 / 100000 : Nat) by omega,
      zpow_natCast, zpow_natCast]
    exact ⟨by exact_mod_cast first, by exact_mod_cast second⟩
  · obtain ⟨n, same⟩ := Int.eq_ofNat_of_zero_le (show 0 ≤ -k by omega)
    obtain rfl : k = -n := by omega
    obtain ⟨-, -, third, fourth⟩ := powers_near n (by omega)
    rw [show -(n : Int) * 30103 / 100000 = -((n * 30103 + 99999) / 100000 : Nat) by omega,
      zpow_neg, zpow_neg, zpow_natCast, zpow_natCast]
    have two : (0 : ℚ) < 2 ^ n := by positivity
    have ten : (0 : ℚ) < 10 ^ ((n * 30103 + 99999) / 100000) := by positivity
    simp only [inv_eq_one_div, mul_one_div]
    rw [div_le_div_iff₀ ten two, div_le_div_iff₀ two ten, one_mul, one_mul]
    exact ⟨by exact_mod_cast third, by exact_mod_cast fourth⟩

/-- The power of ten at which the search begins, but for two. -/
def decimalOrder (m : Nat) (e : Int) : Int := ((Nat.log2 m : Int) + e) * 30103 / 100000

theorem decimalOrder_bounds (range : InRange m e) :
    (10 : ℚ) ^ decimalOrder m e ≤ 2 * 2 ^ ((Nat.log2 m : Int) + e) ∧
      (2 : ℚ) ^ ((Nat.log2 m : Int) + e) ≤ 20 * 10 ^ decimalOrder m e ∧ Nat.log2 m ≤ 52 := by
  have bits : Nat.log2 m < 53 := (Nat.log2_lt range.filled.ne').mpr range.bits
  have most := range.most
  have least := range.least
  obtain ⟨under, above⟩ := @order_bounds ((Nat.log2 m : Int) + e) (by omega) (by omega)
  exact ⟨under, above, by omega⟩

/-- The last grid that the search may come to is fine enough. -/
theorem last_grid_fine (range : InRange m e) :
    (10 : ℚ) ^ (decimalOrder m e - 20) * 4 ≤ 2 ^ e := by
  obtain ⟨under, -, short⟩ := decimalOrder_bounds range
  have few : (2 : ℚ) ^ (Nat.log2 m : Int) ≤ 2 ^ (52 : Int) :=
    zpow_le_zpow_right₀ one_le_two (by omega)
  have unit : (0 : ℚ) < 2 ^ e := by positivity
  have all : (10 : ℚ) ^ decimalOrder m e ≤ 2 * (2 ^ (52 : Int) * 2 ^ e) := by
    refine under.trans ?_
    rw [zpow_add₀ two_ne_zero]
    gcongr
  rw [zpow_sub₀ (by norm_num)]
  norm_num at all ⊢
  linarith

/-- Digits on one of the grids that the search may come to. -/
theorem digits_lt (range : InRange m e) {digits : Nat} {q : Int}
    (rounds : RoundsTo (digits * 10 ^ q) m e) (grid : decimalOrder m e - 20 ≤ q) :
    digits < 2 ^ 100 := by
  obtain ⟨-, above, -⟩ := decimalOrder_bounds range
  have bits : (m : ℚ) + 1 ≤ 2 * 2 ^ (Nat.log2 m : Int) := by
    have : (m : ℚ) + 1 ≤ 2 ^ (Nat.log2 m + 1) := by exact_mod_cast Nat.lt_log2_self (n := m)
    rwa [pow_succ', ← zpow_natCast] at this
  have coarse : (digits : ℚ) * 10 ^ (decimalOrder m e - 20) ≤ 40 * 10 ^ decimalOrder m e := by
    calc (digits : ℚ) * 10 ^ (decimalOrder m e - 20) ≤ digits * 10 ^ q := by
          gcongr
          norm_num
      _ ≤ (m + 1 / 2) * 2 ^ e := rounds.high
      _ ≤ 2 * 2 ^ (Nat.log2 m : Int) * 2 ^ e := by
        gcongr
        linarith
      _ = 2 * 2 ^ ((Nat.log2 m : Int) + e) := by rw [zpow_add₀ two_ne_zero, mul_assoc]
      _ ≤ 2 * (20 * 10 ^ decimalOrder m e) := by gcongr
      _ = 40 * 10 ^ decimalOrder m e := by ring
  have ten : (0 : ℚ) < 10 ^ decimalOrder m e := by positivity
  rw [zpow_sub₀ (by norm_num), mul_div_assoc', div_le_iff₀ (by positivity),
    mul_right_comm] at coarse
  have bound : (digits : ℚ) < 2 ^ 100 :=
    (le_of_mul_le_mul_right coarse ten).trans_lt (by norm_num)
  exact_mod_cast bound

/-- The main statement about shortest digits: they are not zero, not too many, and rounded to the
number again. -/
theorem roundsTo_ofBinary (range : InRange m e) :
    let d := ofBinary m e
    0 < d.digits ∧ d.digits < 2 ^ 100 ∧ RoundsTo d.value m e := by
  intro d
  have bounds := bounds_intervalOf range.filled e
  have place : decimalOrder m e + 2 - (22 : Nat) = decimalOrder m e - 20 := by
    push_cast
    ring
  have last : (onGrid? (intervalOf m e) (decimalOrder m e + 2 - (22 : Nat))).isSome = true := by
    rw [place]
    exact bounds.isSome_onGrid? range.filled (last_grid_fine range)
  obtain ⟨digits, q, done, found, fine⟩ := search_eq last
  obtain ⟨filled, rounds⟩ := bounds.roundsTo_of_onGrid? found
  have few := digits_lt range rounds (place ▸ fine)
  have form : d = (fun found : Nat × Int => dropZeros 20 found.1 found.2)
      (search (intervalOf m e) 22 (decimalOrder m e + 2)) := if_neg range.filled.ne'
  rw [done] at form
  obtain ⟨left, fewer, value⟩ := dropZeros_value 20 digits q filled
  rw [form, value]
  exact ⟨left, fewer.trans_lt few, rounds⟩

end Phrasebook.DecimalDigits
