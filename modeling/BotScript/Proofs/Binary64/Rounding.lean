import BotScript.Proofs.Binary64.Shortest
import Mathlib.Algebra.Order.Field.Basic
import Mathlib.Data.Nat.Cast.Order.Field
import Mathlib.Tactic.Positivity

/-! What rounding gives.  Sums, products and numerals are rounded once, to a number than which no
number of 53 significant bits is nearer; a result that has 53 significant bits is exact. -/

namespace BotScript

/-! ### Rounding to integers -/

theorem roundHalfEven_cases (num den : Nat) :
    (roundHalfEven num den = num / den ∧ 2 * (num % den) ≤ den) ∨
      (roundHalfEven num den = num / den + 1 ∧ den ≤ 2 * (num % den)) := by
  simp only [roundHalfEven]
  split_ifs
  · exact .inl ⟨rfl, by omega⟩
  · exact .inr ⟨rfl, by omega⟩
  · exact .inl ⟨rfl, by omega⟩
  · exact .inr ⟨rfl, by omega⟩

theorem abs_roundHalfEven_sub_le (num : Nat) {den : Nat} (h : 0 < den) :
    |(roundHalfEven num den : ℚ) - num / den| ≤ 1 / 2 := by
  have hDen : (0 : ℚ) < den := by exact_mod_cast h
  have hSplit : (num : ℚ) = den * (num / den : Nat) + (num % den : Nat) := by
    exact_mod_cast (Nat.div_add_mod num den).symm
  have hRatio : (num : ℚ) / den = (num / den : Nat) + (num % den : Nat) / den := by
    rw [hSplit]
    field_simp
  have hRest : (num % den : Nat) / (den : ℚ) < 1 := by
    rw [div_lt_one hDen]
    exact_mod_cast Nat.mod_lt num h
  have hRest' : 0 ≤ (num % den : Nat) / (den : ℚ) := by positivity
  rw [hRatio, abs_le]
  rcases roundHalfEven_cases num den with ⟨hDown, hSmall⟩ | ⟨hUp, hGreat⟩
  · have hHalf : (num % den : Nat) / (den : ℚ) ≤ 1 / 2 := by
      rw [div_le_iff₀ hDen]
      have : (2 * (num % den : Nat) : ℚ) ≤ den := by exact_mod_cast hSmall
      linarith
    rw [hDown]
    constructor <;> linarith
  · have hHalf : 1 / 2 ≤ (num % den : Nat) / (den : ℚ) := by
      rw [le_div_iff₀ hDen]
      have : (den : ℚ) ≤ 2 * (num % den : Nat) := by exact_mod_cast hGreat
      linarith
    rw [hUp, Nat.cast_add, Nat.cast_one]
    constructor <;> linarith

namespace Binary64

/-- The exponent is not given, so that no step computes the power. -/
theorem exists_unitsPerOne_eq : ∃ e, 64 ≤ e ∧ e ≤ 1074 ∧ unitsPerOne = 2 ^ e :=
  ⟨1074, by decide, Nat.le_refl _, by rw [← Nat.one_shiftLeft, unitsPerOne]⟩

theorem exponentWeight_eq : exponentWeight = 2 ^ 52 := by decide

section OfMagnitude

variable {m : Nat}

theorem toNat_ofMagnitude (negative : Bool) (h : m < signWeight) :
    (ofMagnitude negative m).bits.toNat = if negative then signWeight + m else m := by
  simp only [ofMagnitude, signWeight, UInt64.toNat_ofNat'] at *
  split <;> omega

theorem magnitude_ofMagnitude (negative : Bool) (h : m < signWeight) :
    (ofMagnitude negative m).magnitude = m := by
  rw [magnitude, toNat_ofMagnitude negative h]
  split
  · rw [Nat.add_mod_left, Nat.mod_eq_of_lt h]
  · exact Nat.mod_eq_of_lt h

theorem isNegative_ofMagnitude (negative : Bool) (h : m < signWeight) :
    (ofMagnitude negative m).isNegative = negative := by
  rw [isNegative, toNat_ofMagnitude negative h]
  cases negative with
  | true => simp
  | false => simpa using h

end OfMagnitude

/-- The magnitude of a number with 53 significant bits, of which the last weighs `2 ^ s` units. -/
theorem unitsOfMagnitude_scaled {s r : Nat} (hLow : s = 0 ∨ exponentWeight ≤ r)
    (hHigh : r ≤ 2 * exponentWeight) : unitsOfMagnitude (s * exponentWeight + r) = r * 2 ^ s := by
  rcases Nat.lt_or_ge r exponentWeight with hSubnormal | hNormal
  · obtain rfl : s = 0 := hLow.resolve_right (Nat.not_le.mpr hSubnormal)
    rw [unitsOfMagnitude_eq 0 hSubnormal, if_pos rfl, pow_zero, Nat.mul_one]
  · rcases Nat.lt_or_ge r (2 * exponentWeight) with hLess | hCarry
    · have hSplit : s * exponentWeight + r = (s + 1) * exponentWeight + (r - exponentWeight) := by
        rw [Nat.add_mul]
        omega
      rw [hSplit, unitsOfMagnitude_eq (s + 1) (by omega), if_neg (Nat.succ_ne_zero s),
        Nat.add_sub_cancel' hNormal, Nat.add_sub_cancel]
    · -- Rounding has carried into the next power of two.
      obtain rfl : r = 2 * exponentWeight := Nat.le_antisymm hHigh hCarry
      have hSplit : s * exponentWeight + 2 * exponentWeight = (s + 2) * exponentWeight + 0 := by
        ring
      rw [hSplit, unitsOfMagnitude_eq (s + 2) (by decide), if_neg (Nat.succ_ne_zero _),
        show s + 2 - 1 = s + 1 by omega, pow_succ]
      ring

/-! ### Rounding to 53 significant bits -/

/-- The size of a finite number. -/
def size (x : Binary64) : ℚ := x.units / unitsPerOne

theorem size_nonneg (x : Binary64) : 0 ≤ x.size :=
  div_nonneg (Nat.cast_nonneg x.units) (Nat.cast_nonneg unitsPerOne)

/-- A natural number has at most 53 significant bits. -/
def Fits (n : Nat) : Prop := ∃ a b, a < 2 ^ 53 ∧ n = a * 2 ^ b

theorem fits_of_lt {n : Nat} (h : n < 2 ^ 53) : Fits n := ⟨n, 0, h, (Nat.mul_one n).symm⟩

/-- A finite number is `q` rounded: it is a multiple of a power of two, no more than half of which
lies between it and `q`.  The power is the least or leaves `q` at least 53 bits. -/
structure Rounds (x : Binary64) (q : ℚ) : Prop where
  finite : x.isFinite = true
  positive : x.isNegative = false
  near : ∃ s k : Nat, x.units = k * 2 ^ s ∧ k ≤ 2 ^ 53 ∧
    |(k * 2 ^ s : ℚ) - q * unitsPerOne| ≤ 2 ^ s / 2 ∧ (s = 0 ∨ (2 ^ (52 + s) : ℚ) ≤ q * unitsPerOne)

theorem exists_shift {whole bits : Nat} (h : whole < 2 ^ bits) :
    ∃ s, (if whole < 2 * exponentWeight then 0 else whole.log2 - 52) = s ∧ whole < 2 ^ (53 + s) ∧
      (s = 0 ∨ 2 ^ (52 + s) ≤ whole ∧ 53 + s ≤ bits) := by
  rw [exponentWeight_eq]
  split
  · exact ⟨0, rfl, by omega, .inl rfl⟩
  · rename_i hGreat
    have hNonzero : whole ≠ 0 := by omega
    have hLog : 53 ≤ whole.log2 := (Nat.le_log2 hNonzero).mpr (by omega)
    have hBits : whole.log2 < bits := (Nat.log2_lt hNonzero).mpr h
    refine ⟨_, rfl, ?_, .inr ⟨?_, by omega⟩⟩
    · rw [show 53 + (whole.log2 - 52) = whole.log2 + 1 by omega]
      exact Nat.lt_log2_self
    · rw [show 52 + (whole.log2 - 52) = whole.log2 by omega]
      exact Nat.log2_self_le hNonzero

theorem roundHalfEven_bounds {num den s : Nat} (hLess : num / den < 2 ^ (53 + s))
    (hLeast : s = 0 ∨ 2 ^ (52 + s) ≤ num / den) :
    roundHalfEven num (den * 2 ^ s) ≤ 2 ^ 53 ∧
      (s = 0 ∨ 2 ^ 52 ≤ roundHalfEven num (den * 2 ^ s)) := by
  have hFloor : num / (den * 2 ^ s) < 2 ^ 53 := by
    rw [← Nat.div_div_eq_div_mul]
    exact Nat.div_lt_of_lt_mul (by rwa [← Nat.pow_add, Nat.add_comm])
  have hEither : roundHalfEven num (den * 2 ^ s) = num / (den * 2 ^ s) ∨
      roundHalfEven num (den * 2 ^ s) = num / (den * 2 ^ s) + 1 :=
    (roundHalfEven_cases num (den * 2 ^ s)).imp And.left And.left
  refine ⟨by omega, hLeast.imp_right fun hLeast => ?_⟩
  have hFloor' : 2 ^ 52 ≤ num / (den * 2 ^ s) := by
    rw [← Nat.div_div_eq_div_mul, Nat.le_div_iff_mul_le (Nat.two_pow_pos s), ← Nat.pow_add]
    exact hLeast
  omega

theorem unitsPerOne_pos : (0 : ℚ) < unitsPerOne := by
  exact_mod_cast Decimal.unitsPerOne_pos

theorem ratio_lt {num den : Nat} {q : ℚ} (hValue : q * unitsPerOne = num / den)
    (hHigh : q < 2 ^ 200) : ∃ bits ≤ 1274, num / den < 2 ^ bits := by
  have hFloor : ((num / den : Nat) : ℚ) ≤ num / den := Nat.cast_div_le
  have hBound : ((num / den : Nat) : ℚ) < (2 ^ 200 * unitsPerOne : Nat) := by
    rw [← hValue] at hFloor
    push_cast
    exact hFloor.trans_lt (mul_lt_mul_of_pos_right hHigh unitsPerOne_pos)
  obtain ⟨e, -, he, hOne⟩ := exists_unitsPerOne_eq
  rw [hOne, ← Nat.pow_add] at hBound
  exact ⟨200 + e, by omega, by exact_mod_cast hBound⟩

theorem rounds_ofUnitRatio {num den : Nat} {q : ℚ} (hDen : 0 < den)
    (hValue : q * unitsPerOne = num / den) (hHigh : q < 2 ^ 200) :
    Rounds (ofUnitRatio false num den) q := by
  obtain ⟨bits, hBits, hRatio⟩ := ratio_lt hValue hHigh
  obtain ⟨s, hShift, hLess, hLeast⟩ := exists_shift hRatio
  obtain ⟨hMost, hSome⟩ := roundHalfEven_bounds hLess (hLeast.imp_right And.left)
  have hRounded := abs_roundHalfEven_sub_le num (Nat.mul_pos hDen (Nat.two_pow_pos s))
  rw [ofUnitRatio, hShift, Nat.shiftLeft_eq]
  generalize roundHalfEven num (den * 2 ^ s) = k at *
  have hMagnitude : s * exponentWeight + k < infiniteMagnitude := by
    simp only [infiniteMagnitude, exponentWeight]
    omega
  have hSign : s * exponentWeight + k < signWeight := hMagnitude.trans (by decide)
  rw [Nat.min_eq_left hMagnitude.le]
  refine ⟨?_, isNegative_ofMagnitude false hSign, s, k, ?_, hMost, ?_, ?_⟩
  · rw [isFinite, magnitude_ofMagnitude false hSign, decide_eq_true_eq]
    exact hMagnitude
  · rw [units, magnitude_ofMagnitude false hSign]
    exact unitsOfMagnitude_scaled (by rwa [exponentWeight_eq]) (by rw [exponentWeight_eq]; omega)
  · have hPower : (0 : ℚ) < 2 ^ s := by positivity
    have hScaled : (k * 2 ^ s : ℚ) - q * unitsPerOne =
        (k - num / (den * 2 ^ s : Nat)) * 2 ^ s := by
      rw [hValue]
      push_cast
      field_simp
    rw [hScaled, abs_mul, abs_of_pos hPower]
    linarith [mul_le_mul_of_nonneg_right hRounded hPower.le]
  · refine hLeast.imp_right fun hLeast => ?_
    rw [hValue, le_div_iff₀ (by exact_mod_cast hDen)]
    exact_mod_cast (Nat.le_div_iff_mul_le hDen).mp hLeast.1

namespace Rounds

variable {x y : Binary64} {p q : ℚ} {n : Nat}

/-- No multiple of the power is nearer, and so no number with 53 significant bits. -/
theorem units_nearest (h : Rounds x q) {a t : Nat} (ha : a < 2 ^ 53) :
    |x.units - q * unitsPerOne| ≤ |(a * 2 ^ t : ℚ) - q * unitsPerOne| := by
  obtain ⟨s, k, hUnits, -, hNear, hLeast⟩ := h.near
  rw [hUnits]
  generalize q * unitsPerOne = v at *
  push_cast
  have hPower : (0 : ℚ) < 2 ^ s := by positivity
  have hMultiple (c : Nat) : |(k * 2 ^ s : ℚ) - v| ≤ |(c * 2 ^ s : ℚ) - v| := by
    rcases eq_or_ne c k with rfl | hOther
    · exact le_rfl
    · have hApart : (1 : ℚ) ≤ |(c : ℚ) - k| := by
        have hInt : 1 ≤ |(c : Int) - k| := Int.one_le_abs (by omega)
        exact_mod_cast hInt
      have hSplit : |((c : ℚ) - k) * 2 ^ s| ≤ |(c * 2 ^ s : ℚ) - v| + |(k * 2 ^ s : ℚ) - v| := by
        rw [show ((c : ℚ) - k) * 2 ^ s = (c * 2 ^ s - v) - (k * 2 ^ s - v) by ring]
        exact abs_sub _ _
      rw [abs_mul, abs_of_pos hPower] at hSplit
      linarith [mul_le_mul_of_nonneg_right hApart hPower.le]
  rcases Nat.lt_or_ge t s with hCoarse | hFine
  · -- The competitor lies below the power of two that begins the numbers around `v`.
    have hLow : (2 ^ (52 + s) : ℚ) ≤ v := hLeast.resolve_left (by omega)
    have hBelow : (a * 2 ^ t : ℚ) ≤ 2 ^ (52 + s) := by
      have hNat : a * 2 ^ t ≤ 2 ^ (52 + s) := by
        calc a * 2 ^ t ≤ 2 ^ 53 * 2 ^ t := Nat.mul_le_mul_right _ ha.le
          _ = 2 ^ (53 + t) := (Nat.pow_add 2 53 t).symm
          _ ≤ 2 ^ (52 + s) := Nat.pow_le_pow_right (by decide) (by omega)
      exact_mod_cast hNat
    have hFirst := hMultiple (2 ^ 52)
    rw [Nat.cast_pow, Nat.cast_ofNat, ← pow_add,
      abs_of_nonpos (by linarith : (2 ^ (52 + s) : ℚ) - v ≤ 0)] at hFirst
    rw [abs_of_nonpos (by linarith : (a * 2 ^ t : ℚ) - v ≤ 0)]
    linarith
  · have hSame : (a * 2 ^ t : ℚ) = (a * 2 ^ (t - s) : Nat) * 2 ^ s := by
      push_cast
      rw [mul_assoc, ← pow_add, Nat.sub_add_cancel hFine]
    rw [hSame]
    exact hMultiple _

theorem size_nearest (h : Rounds x q) (hn : Fits n) : |x.size - q| ≤ |n - q| := by
  obtain ⟨a, b, ha, rfl⟩ := hn
  obtain ⟨e, -, -, hOne⟩ := exists_unitsPerOne_eq
  have hUnits := h.units_nearest (t := b + e) ha
  have hPos := unitsPerOne_pos
  have hLeft : (x.units : ℚ) - q * unitsPerOne = (x.size - q) * unitsPerOne := by
    rw [size]
    field_simp
  have hRight : (a * 2 ^ (b + e) : ℚ) - q * unitsPerOne =
      ((a * 2 ^ b : Nat) - q) * unitsPerOne := by
    rw [hOne]
    push_cast
    ring
  rw [hLeft, hRight, abs_mul, abs_mul] at hUnits
  exact le_of_mul_le_mul_right hUnits (abs_pos.mpr hPos.ne')

/-- A number with 53 significant bits is not changed. -/
theorem size_eq (h : Rounds x n) (hn : Fits n) : x.size = n := by
  have hNearest := h.size_nearest hn
  rw [sub_self, abs_zero] at hNearest
  exact sub_eq_zero.mp (abs_nonpos_iff.mp hNearest)

theorem size_near (h : Rounds x q) (hq : 0 ≤ q) : |x.size - q| ≤ q / 2 ^ 53 + 1 / 2 ^ 64 := by
  obtain ⟨s, k, hUnits, -, hNear, hLeast⟩ := h.near
  obtain ⟨e, he, -, hOne⟩ := exists_unitsPerOne_eq
  have hPos := unitsPerOne_pos
  have hStep : (2 ^ s / 2 : ℚ) ≤ q * unitsPerOne / 2 ^ 53 + 1 / 2 := by
    rcases hLeast with rfl | hLeast
    · have : 0 ≤ q * unitsPerOne / 2 ^ 53 := div_nonneg (mul_nonneg hq hPos.le) (by norm_num)
      linarith
    · rw [pow_add] at hLeast
      linarith
  have hSplit : x.size - q = (k * 2 ^ s - q * unitsPerOne) / unitsPerOne := by
    rw [size, hUnits]
    push_cast
    field_simp
  have hUnit : (2 : ℚ) ^ 64 ≤ unitsPerOne := by
    rw [hOne]
    push_cast
    exact pow_le_pow_right₀ (by norm_num) he
  rw [hSplit, abs_div, abs_of_pos hPos, div_le_iff₀ hPos]
  have hRest : 1 / 2 ≤ 1 / (2 : ℚ) ^ 64 * unitsPerOne := by linarith
  calc |(k * 2 ^ s : ℚ) - q * unitsPerOne| ≤ q * unitsPerOne / 2 ^ 53 + 1 / 2 := hNear.trans hStep
    _ ≤ (q / 2 ^ 53 + 1 / 2 ^ 64) * unitsPerOne := by
      rw [add_mul]
      linarith

/-- Beyond `2 ^ 52` all numbers are integers. -/
theorem exists_size_eq (h : Rounds x q) (hGreat : 2 ^ 52 < x.size) : ∃ n, Fits n ∧ x.size = n := by
  obtain ⟨s, k, hUnits, hMost, -, -⟩ := h.near
  obtain ⟨e, -, -, hOne⟩ := exists_unitsPerOne_eq
  have hPos := unitsPerOne_pos
  have hStep : e ≤ s := by
    rw [size, lt_div_iff₀ hPos, hOne, hUnits] at hGreat
    have hLess : 2 ^ 52 * 2 ^ e < k * 2 ^ s := by exact_mod_cast hGreat
    have hPower : 2 ^ (52 + e) < 2 ^ (53 + s) := by
      rw [Nat.pow_add, Nat.pow_add]
      exact hLess.trans_le (Nat.mul_le_mul_right _ hMost)
    have := (Nat.pow_lt_pow_iff_right (by decide)).mp hPower
    omega
  refine ⟨k * 2 ^ (s - e), ?_, ?_⟩
  · rcases hMost.lt_or_eq with hLess | rfl
    · exact ⟨k, s - e, hLess, rfl⟩
    · exact ⟨1, 53 + (s - e), by decide, by rw [Nat.one_mul, Nat.pow_add]⟩
  · rw [size, div_eq_iff hPos.ne', hUnits, hOne]
    push_cast
    rw [mul_assoc, ← pow_add, Nat.sub_add_cancel hStep]

end Rounds

/-! ### Operations -/

section Operations

variable {x y : Binary64} {p q : ℚ}

theorem rounds_zero : Rounds zero 0 where
  finite := by decide
  positive := by decide
  near := ⟨0, 0, by decide, by decide, by simp, .inl rfl⟩

theorem rounds_ofNat {n : Nat} (h : (n : ℚ) < 2 ^ 200) : Rounds (ofNat n) n := by
  refine rounds_ofUnitRatio (by decide) ?_ h
  push_cast
  rw [div_one]

theorem Rounds.mul (hx : Rounds x p) (hy : Rounds y q) (hHigh : x.size * y.size < 2 ^ 200) :
    Rounds (x.mul y) (x.size * y.size) := by
  obtain ⟨hxNaN, hxInfinite⟩ := isFinite_iff.mp hx.finite
  obtain ⟨hyNaN, hyInfinite⟩ := isFinite_iff.mp hy.finite
  have hProduct : x.mul y = ofUnitRatio false (x.units * y.units) unitsPerOne := by
    simp [Binary64.mul, hxNaN, hyNaN, hxInfinite, hyInfinite, hx.positive, hy.positive]
  rw [hProduct]
  refine rounds_ofUnitRatio Decimal.unitsPerOne_pos ?_ hHigh
  rw [size, size, Nat.cast_mul, div_mul_div_comm, div_mul_eq_mul_div,
    mul_div_mul_right _ _ unitsPerOne_pos.ne']

theorem Rounds.add (hx : Rounds x p) (hy : Rounds y q) (hHigh : x.size + y.size < 2 ^ 200) :
    Rounds (x.add y) (x.size + y.size) := by
  obtain ⟨hxNaN, hxInfinite⟩ := isFinite_iff.mp hx.finite
  obtain ⟨hyNaN, hyInfinite⟩ := isFinite_iff.mp hy.finite
  have hxUnits : x.signedUnits = x.units := by simp [signedUnits, hx.positive]
  have hyUnits : y.signedUnits = y.units := by simp [signedUnits, hy.positive]
  have hSize : (x.size + y.size) * unitsPerOne = (x.units + y.units : Nat) := by
    rw [size, size, ← add_div, div_mul_cancel₀ _ unitsPerOne_pos.ne', Nat.cast_add]
  rw [Binary64.add]
  simp only [hxNaN, hyNaN, hxInfinite, hyInfinite, hxUnits, hyUnits, hx.positive, hy.positive,
    Bool.or_self, Bool.and_self, Bool.false_eq_true, if_false]
  split
  · rename_i hZero
    have hNone : x.units + y.units = 0 := by omega
    rw [hNone, Nat.cast_zero, mul_eq_zero] at hSize
    rw [hSize.resolve_right unitsPerOne_pos.ne']
    exact rounds_zero
  · have hAbs : ((x.units : Int) + y.units).natAbs = x.units + y.units := by omega
    rw [decide_eq_false (by omega), hAbs]
    exact rounds_ofUnitRatio Nat.one_pos (by rw [hSize, Nat.cast_one, div_one]) hHigh

/-- Numerals of a moderate size are read by their digits. -/
theorem scale_bounds {n : Numeral} (hDigits : 0 < n.significand)
    (hLow : (10 : ℚ) ^ (-100 : Int) ≤ n.value) (hHigh : n.value < 2 ^ 200) :
    -100 < Decimal.lengthOf n.significand + n.scale ∧
      Decimal.lengthOf n.significand + n.scale ≤ 200 := by
  have hScale : (0 : ℚ) < 10 ^ n.scale := zpow_pos (by norm_num) _
  constructor
  · have hLess : (n.significand : ℚ) < 10 ^ Decimal.lengthOf n.significand := by
      exact_mod_cast Decimal.lt_ten_pow_lengthOf n.significand
    have hValue : (10 : ℚ) ^ (-100 : Int) < 10 ^ (Decimal.lengthOf n.significand + n.scale) := by
      rw [zpow_add₀ (by norm_num), zpow_natCast]
      exact hLow.trans_lt (mul_lt_mul_of_pos_right hLess hScale)
    exact (zpow_lt_zpow_iff_right₀ (by norm_num)).mp hValue
  · have hLeast : (10 : ℚ) ^ (Decimal.lengthOf n.significand - 1) ≤ n.significand := by
      exact_mod_cast Decimal.ten_pow_le_of_lengthOf hDigits
    have hPos : 0 < Decimal.lengthOf n.significand := Nat.length_toDigits_pos
    have hValue : (10 : ℚ) ^ ((Decimal.lengthOf n.significand - 1 : Nat) + n.scale) <
        10 ^ (200 : Int) := by
      rw [zpow_add₀ (by norm_num), zpow_natCast]
      calc (10 : ℚ) ^ (Decimal.lengthOf n.significand - 1) * 10 ^ n.scale ≤ n.value :=
            mul_le_mul_of_nonneg_right hLeast hScale.le
        _ < 2 ^ 200 := hHigh
        _ ≤ 10 ^ (200 : Int) := by norm_num
    have := (zpow_lt_zpow_iff_right₀ (by norm_num)).mp hValue
    omega

theorem rounds_toBinary64 {n : Numeral} (hLow : n.value = 0 ∨ (10 : ℚ) ^ (-100 : Int) ≤ n.value)
    (hHigh : n.value < 2 ^ 200) : Rounds (n.toBinary64 false) n.value := by
  rw [Numeral.toBinary64]
  by_cases hZero : n.significand = 0
  · rw [if_pos hZero, Numeral.value, hZero, Nat.cast_zero, zero_mul]
    exact rounds_zero
  · have hValue : n.value ≠ 0 :=
      mul_ne_zero (by exact_mod_cast hZero) (zpow_ne_zero _ (by norm_num))
    obtain ⟨hLeast, hMost⟩ :=
      scale_bounds (Nat.pos_of_ne_zero hZero) (hLow.resolve_left hValue) hHigh
    rw [Decimal.lengthOf] at hLeast hMost
    rw [if_neg hZero, if_neg (by omega), if_neg (by omega)]
    split
    · obtain ⟨k, hk⟩ := Int.eq_ofNat_of_zero_le ‹0 ≤ n.scale›
      refine rounds_ofUnitRatio Nat.one_pos ?_ hHigh
      rw [hk, Int.toNat_natCast, Numeral.value, hk, zpow_natCast, Nat.pow_eq]
      push_cast
      ring
    · obtain ⟨k, hk⟩ := Int.eq_ofNat_of_zero_le (by omega : 0 ≤ -n.scale)
      refine rounds_ofUnitRatio (Nat.pow_pos (by decide)) ?_ hHigh
      rw [hk, Int.toNat_natCast, Numeral.value, show n.scale = -(k : Int) by omega, zpow_neg,
        zpow_natCast, Nat.pow_eq]
      push_cast
      field_simp

end Operations

/-! ### The nearest integer -/

section Nearest

variable {x : Binary64}

theorem roundHalfAway_eq (x : Binary64) :
    x.roundHalfAway = if x.isNegative then
        -(((2 * x.units + unitsPerOne) / (2 * unitsPerOne) : Nat) : Int)
      else ((2 * x.units + unitsPerOne) / (2 * unitsPerOne) : Nat) := by
  rw [roundHalfAway]
  push_cast
  rfl

theorem natAbs_roundHalfAway (x : Binary64) :
    x.roundHalfAway.natAbs = (2 * x.units + unitsPerOne) / (2 * unitsPerOne) := by
  rw [roundHalfAway_eq]
  split
  · rw [Int.natAbs_neg, Int.natAbs_natCast]
  · rw [Int.natAbs_natCast]

theorem roundHalfAway_of_near {n : Nat} (hPositive : x.isNegative = false)
    (hNear : |x.size - n| < 1 / 2) : x.roundHalfAway = n := by
  have hPos := unitsPerOne_pos
  rw [size, abs_lt] at hNear
  have hLow : n * (2 * unitsPerOne) ≤ 2 * x.units + unitsPerOne := by
    have h : (n : ℚ) - 1 / 2 < x.units / unitsPerOne := by linarith
    rw [lt_div_iff₀ hPos] at h
    have h' : (n * (2 * unitsPerOne) : ℚ) < 2 * x.units + unitsPerOne := by linarith
    exact_mod_cast h'.le
  have hHigh : 2 * x.units + unitsPerOne < (n + 1) * (2 * unitsPerOne) := by
    have h : (x.units : ℚ) / unitsPerOne < n + 1 / 2 := by linarith
    rw [div_lt_iff₀ hPos] at h
    have h' : (2 * x.units + unitsPerOne : ℚ) < (n + 1) * (2 * unitsPerOne) := by linarith
    exact_mod_cast h'
  have hWhole : (2 * x.units + unitsPerOne) / (2 * unitsPerOne) = n :=
    Nat.div_eq_of_lt_le hLow hHigh
  rw [roundHalfAway_eq, hPositive, hWhole]
  rfl

end Nearest

end Binary64

end BotScript
