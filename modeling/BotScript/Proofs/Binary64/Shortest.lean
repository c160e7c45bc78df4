import BotScript.Proofs.Binary64.Order
import BotScript.Proofs.Text.Numeral
import Mathlib.Tactic.Linarith

/-! The shortest decimal of a number reads back as the number: it lies in the interval of decimals
that are nearer to the number than to any other, because seventeen digits make the grid of decimals
finer than this interval.  The intervals of different numbers do not meet, so that different
numbers have different decimals. -/

namespace BotScript

namespace Decimal

open Binary64 (unitsPerOne unitsOfMagnitude exponentWeight)

/-! ### Intervals -/

namespace Interval

/-- A rational number lies between the ends of the interval, or on one if it is closed. -/
def Covers (i : Interval) (q : ℚ) : Prop :=
  if i.closed then i.low ≤ 2 * unitsPerOne * q ∧ 2 * unitsPerOne * q ≤ i.high
  else i.low < 2 * unitsPerOne * q ∧ 2 * unitsPerOne * q < i.high

theorem Covers.le {i : Interval} {q : ℚ} (h : i.Covers q) :
    i.low ≤ 2 * unitsPerOne * q ∧ 2 * unitsPerOne * q ≤ i.high := by
  rw [Covers] at h
  split at h
  · exact h
  · exact ⟨h.1.le, h.2.le⟩

theorem Covers.lt {i : Interval} {q : ℚ} (h : i.Covers q) (hOpen : i.closed = false) :
    i.low < 2 * unitsPerOne * q ∧ 2 * unitsPerOne * q < i.high := by
  simpa [Covers, hOpen] using h

/-- A greater magnitude has no rational number in its interval that a smaller one has.  The ends of
neighbouring intervals coincide, but only one of the two intervals is closed. -/
theorem not_covers_of_lt {m n : Nat} {q : ℚ} (hLess : m < n) (hm : (ofMagnitude m).Covers q) :
    ¬(ofMagnitude n).Covers q := by
  intro hn
  have hMono := Binary64.unitsOfMagnitude_strictMono
  have hEnds : (ofMagnitude m).high ≤ (ofMagnitude n).low := by
    have hFirst := hMono.monotone (Nat.le_sub_one_of_lt hLess)
    have hSecond := hMono.monotone (show m + 1 ≤ n from hLess)
    simp only [ofMagnitude]
    omega
  have hEqual : (ofMagnitude m).high = (ofMagnitude n).low := by
    have hMeet : ((ofMagnitude n).low : ℚ) ≤ (ofMagnitude m).high := hn.le.1.trans hm.le.2
    exact Nat.le_antisymm hEnds (by exact_mod_cast hMeet)
  cases hmClosed : (ofMagnitude m).closed with
  | false => exact absurd (hEqual ▸ hn.le.1) (not_le.mpr (hm.lt hmClosed).2)
  | true =>
    cases hnClosed : (ofMagnitude n).closed with
    | false => exact absurd (hEqual ▸ hm.le.2) (not_le.mpr (hn.lt hnClosed).1)
    | true =>
      have hmEven : m % 2 = 0 := by simpa [ofMagnitude] using hmClosed
      have hnEven : n % 2 = 0 := by simpa [ofMagnitude] using hnClosed
      have hFirst := hMono (show m < n - 1 by omega)
      have hSecond := hMono.monotone (show m + 1 ≤ n from hLess)
      simp only [ofMagnitude] at hEqual
      omega

/-- Only one magnitude has a given rational number in its interval. -/
theorem eq_of_covers {m n : Nat} {q : ℚ} (hm : (ofMagnitude m).Covers q)
    (hn : (ofMagnitude n).Covers q) : m = n := by
  rcases Nat.lt_trichotomy m n with hLess | hEqual | hGreater
  · exact absurd hn (not_covers_of_lt hLess hm)
  · exact hEqual
  · exact absurd hm (not_covers_of_lt hGreater hn)

theorem contains_of_lt {i : Interval} {num den : Nat} (hLow : i.low * den < num)
    (hHigh : num < i.high * den) : i.contains num den = true := by
  rw [contains]
  split <;> simp [hLow, hHigh, hLow.le, hHigh.le]

end Interval

/-! ### Powers of ten -/

theorem powerOfTen_pos (k : Int) : 0 < (powerOfTen k).1 ∧ 0 < (powerOfTen k).2 := by
  rw [powerOfTen]
  split
  · exact ⟨Nat.pow_pos (by decide), Nat.one_pos⟩
  · exact ⟨Nat.one_pos, Nat.pow_pos (by decide)⟩

theorem powerOfTen_ratio (k : Int) : ((powerOfTen k).1 : ℚ) / (powerOfTen k).2 = 10 ^ k := by
  rw [powerOfTen]
  split
  · obtain ⟨n, rfl⟩ := Int.eq_ofNat_of_zero_le ‹0 ≤ k›
    simp
  · obtain ⟨n, hn⟩ := Int.eq_ofNat_of_zero_le (by omega : 0 ≤ -k)
    rw [hn, show k = -(n : Int) by omega]
    simp

theorem lt_ten_pow_lengthOf (n : Nat) : n < 10 ^ lengthOf n :=
  (Nat.length_toDigits_le_iff (by decide) Nat.length_toDigits_pos).mp (Nat.le_refl _)

theorem ten_pow_le_of_lengthOf {n : Nat} (h : 0 < n) : 10 ^ (lengthOf n - 1) ≤ n := by
  by_cases hOne : lengthOf n ≤ 1
  · rw [Nat.sub_eq_zero_of_le hOne]
    exact h
  · by_contra hLess
    have hShort : lengthOf n ≤ lengthOf n - 1 :=
      (Nat.length_toDigits_le_iff (by decide) (by omega)).mpr (Nat.lt_of_not_le hLess)
    omega

theorem unitsPerOne_pos : 0 < unitsPerOne := by decide

/-- The order of a number is not too great: the power of ten below it is at most the number. -/
theorem orderOf_le {units : Nat} (h : 0 < units) :
    (unitsPerOne : ℚ) * 10 ^ (orderOf units - 1) ≤ units := by
  rw [orderOf]
  split
  · -- The integer part has as many digits as the order says.
    rename_i hGreat
    have hWhole : 0 < units / unitsPerOne := Nat.div_pos hGreat unitsPerOne_pos
    have hLength : 0 < lengthOf (units / unitsPerOne) := Nat.length_toDigits_pos
    have hLeast : unitsPerOne * 10 ^ (lengthOf (units / unitsPerOne) - 1) ≤ units :=
      (Nat.mul_le_mul_left _ (ten_pow_le_of_lengthOf hWhole)).trans (Nat.mul_div_le _ _)
    rw [show (lengthOf (units / unitsPerOne) : Int) - 1 =
      ((lengthOf (units / unitsPerOne) - 1 : Nat) : Int) by omega, zpow_natCast]
    exact_mod_cast hLeast
  · -- The number goes into 1 fewer times than that power of ten.
    have hLess : unitsPerOne < units * 10 ^ lengthOf (unitsPerOne / units) := by
      have := Nat.lt_mul_div_succ unitsPerOne h
      exact this.trans_le (Nat.mul_le_mul_left _ (lt_ten_pow_lengthOf _))
    rw [show (1 - (lengthOf (unitsPerOne / units) : Int) - 1) =
      -(lengthOf (unitsPerOne / units) : Int) by omega, zpow_neg, zpow_natCast,
      ← div_eq_mul_inv, div_le_iff₀ (by positivity)]
    exact_mod_cast hLess.le

/-! ### The grid -/

section Grid

variable {tie : Tie} {i : Interval} {units : Nat} {k : Int}

/-- Whether a multiple of the grid's step is taken is whether its value is in the interval. -/
theorem contains_iff_covers (i : Interval) (c : Nat) (k : Int) :
    i.contains (c * (2 * unitsPerOne * (powerOfTen k).1)) (powerOfTen k).2 = true ↔
      i.Covers (value ⟨c, k⟩) := by
  have hPos : (0 : ℚ) < (powerOfTen k).2 := by exact_mod_cast (powerOfTen_pos k).2
  have hValue : 2 * unitsPerOne * value ⟨c, k⟩ =
      ((c * (2 * unitsPerOne * (powerOfTen k).1) : Nat) : ℚ) / (powerOfTen k).2 := by
    rw [value, ← powerOfTen_ratio]
    push_cast
    ring
  rw [Interval.contains, Interval.Covers, hValue, le_div_iff₀ hPos, div_le_iff₀ hPos,
    lt_div_iff₀ hPos, div_lt_iff₀ hPos]
  norm_cast
  split <;> simp

theorem covers_of_onGrid {d : Decimal} (h : onGrid tie i units k = some d) : i.Covers d.value := by
  simp only [onGrid] at h
  split at h
  · exact nomatch h
  · rename_i hBelow _
    cases h
    exact (contains_iff_covers i _ k).mp hBelow
  · rename_i _ hAbove
    cases h
    exact (contains_iff_covers i _ k).mp hAbove
  · rename_i hBelow hAbove
    have hEither : d = ⟨2 * units * (powerOfTen k).2 / (2 * unitsPerOne * (powerOfTen k).1), k⟩ ∨
        d = ⟨2 * units * (powerOfTen k).2 / (2 * unitsPerOne * (powerOfTen k).1) + 1, k⟩ := by
      grind
    obtain rfl | rfl := hEither
    · exact (contains_iff_covers i _ k).mp hBelow
    · exact (contains_iff_covers i _ k).mp hAbove

/-- A grid finer than the interval has a point in it next to the number. -/
theorem onGrid_ne_none (hLow : i.low < 2 * units) (hHigh : 2 * units < i.high)
    (hFine : 2 * unitsPerOne * (10 : ℚ) ^ k < i.high - i.low) :
    onGrid tie i units k ≠ none := by
  obtain ⟨hNum, hDen⟩ := powerOfTen_pos k
  have hStep : 0 < 2 * unitsPerOne * (powerOfTen k).1 :=
    Nat.mul_pos (Nat.mul_pos (by decide) unitsPerOne_pos) hNum
  rw [← powerOfTen_ratio, ← mul_div_assoc, div_lt_iff₀ (by exact_mod_cast hDen), sub_mul,
    lt_sub_iff_add_lt] at hFine
  norm_cast at hFine
  simp only [onGrid]
  generalize (powerOfTen k).2 = den at *
  generalize 2 * unitsPerOne * (powerOfTen k).1 = step at *
  have hAboveLow : i.low * den < 2 * units * den := Nat.mul_lt_mul_of_pos_right hLow hDen
  have hBelowHigh : 2 * units * den < i.high * den := Nat.mul_lt_mul_of_pos_right hHigh hDen
  have hFloor : 2 * units * den / step * step ≤ 2 * units * den := Nat.div_mul_le_self _ _
  have hCeil : 2 * units * den < (2 * units * den / step + 1) * step := by
    rw [Nat.add_mul, Nat.one_mul]
    exact Nat.lt_div_mul_add hStep
  have hFits : i.contains (2 * units * den / step * step) den = true ∨
      i.contains ((2 * units * den / step + 1) * step) den = true := by
    by_cases hIn : i.low * den < 2 * units * den / step * step
    · exact .inl (Interval.contains_of_lt hIn (by omega))
    · refine .inr (Interval.contains_of_lt (by omega) ?_)
      rw [Nat.add_mul, Nat.one_mul]
      omega
  split
  · simp_all
  · simp
  · simp
  · split_ifs <;> cases tie <;> simp

end Grid

/-! ### Seventeen digits -/

/-- Between its neighbours a number has more room than itself divided by `2 ^ 52`, also where the
numbers below it lie closer together than those above. -/
theorem unitsOfMagnitude_lt_width {m : Nat} (h : 0 < m) :
    unitsOfMagnitude m < (unitsOfMagnitude (m + 1) - unitsOfMagnitude (m - 1)) * 2 ^ 52 := by
  obtain ⟨k, rfl⟩ := Nat.exists_eq_add_of_lt h
  rw [Nat.zero_add, Nat.add_sub_cancel]
  obtain ⟨e, f, hf, hk⟩ : ∃ e f, f < exponentWeight ∧ k + 1 = e * exponentWeight + f :=
    ⟨(k + 1) / exponentWeight, (k + 1) % exponentWeight, Nat.mod_lt _ (by decide),
      (Nat.div_add_mod' (k + 1) exponentWeight).symm⟩
  have hDiv : (k + 1) / exponentWeight = e := by
    rw [hk, Nat.mul_comm, Nat.mul_add_div (by decide), Nat.div_eq_of_lt hf, Nat.add_zero]
  have hWidth : unitsOfMagnitude (k + 1 + 1) - unitsOfMagnitude k =
      2 ^ (e - 1) + 2 ^ (k / exponentWeight - 1) := by
    rw [Binary64.unitsOfMagnitude_succ (k + 1), Binary64.unitsOfMagnitude_succ k, hDiv]
    exact Nat.sub_eq_of_eq_add (by ring)
  have hWeight : exponentWeight = 2 ^ 52 := by decide
  rw [hWidth, hk, Binary64.unitsOfMagnitude_eq e hf, ← hWeight]
  by_cases hZero : f = 0
  · -- The least number of an exponent: the room above it alone is enough.
    have hExponent : e ≠ 0 := by
      rintro rfl
      omega
    rw [if_neg hExponent, hZero, Nat.add_zero, Nat.mul_comm]
    exact Nat.mul_lt_mul_of_pos_right (Nat.lt_add_of_pos_right (Nat.two_pow_pos _)) (by decide)
  · have hSame : k / exponentWeight = e := by
      rw [show k = e * exponentWeight + (f - 1) by omega, Nat.mul_comm,
        Nat.mul_add_div (by decide), Nat.div_eq_of_lt (by omega), Nat.add_zero]
    rw [hSame, ← Nat.two_mul, Nat.mul_right_comm]
    split
    · have := Nat.two_pow_pos (e - 1)
      calc f < 2 * exponentWeight := by omega
        _ ≤ 2 * exponentWeight * 2 ^ (e - 1) := Nat.le_mul_of_pos_right _ this
    · exact Nat.mul_lt_mul_of_pos_right (by omega) (Nat.two_pow_pos _)

/-- A magnitude has a decimal of seventeen digits. -/
theorem onGrid_seventeen_ne_none (tie : Tie) {m : Nat} (h : 0 < m) :
    onGrid tie (Interval.ofMagnitude m) (unitsOfMagnitude m)
      (orderOf (unitsOfMagnitude m) - 17) ≠ none := by
  have hMono := Binary64.unitsOfMagnitude_strictMono
  have hBelow := hMono (show m - 1 < m by omega)
  have hAbove := hMono (show m < m + 1 by omega)
  have hWidth := unitsOfMagnitude_lt_width h
  apply onGrid_ne_none
  · simp only [Interval.ofMagnitude]
    omega
  · simp only [Interval.ofMagnitude]
    omega
  · have hOrder := orderOf_le (show 0 < unitsOfMagnitude m by omega)
    have hStep : (10 : ℚ) ^ (orderOf (unitsOfMagnitude m) - 17) =
        10 ^ (orderOf (unitsOfMagnitude m) - 1) / 10 ^ 16 := by
      rw [eq_div_iff (by positivity), ← zpow_natCast, ← zpow_add₀ (by norm_num)]
      congr 1
      push_cast
      ring
    have hRoom : (unitsOfMagnitude m : ℚ) <
        (unitsOfMagnitude (m + 1) - unitsOfMagnitude (m - 1)) * 2 ^ 52 := by
      have hCast : (unitsOfMagnitude m : ℚ) <
          ((unitsOfMagnitude (m + 1) - unitsOfMagnitude (m - 1) : Nat) : ℚ) * 2 ^ 52 := by
        exact_mod_cast hWidth
      rwa [Nat.cast_sub (by omega)] at hCast
    simp only [Interval.ofMagnitude]
    rw [hStep]
    push_cast
    linarith

/-! ### The shortest decimal -/

theorem value_trim (fuel : Nat) (d : Decimal) : (trim fuel d).value = d.value := by
  induction fuel generalizing d with
  | zero => rfl
  | succ fuel ih =>
    rw [trim]
    split
    · rename_i h
      have hTen : (10 : ℚ) * (d.digits / 10 : Nat) = d.digits := by
        exact_mod_cast Nat.mul_div_cancel' (Nat.dvd_of_mod_eq_zero h.2)
      rw [ih, value, value, zpow_add₀ (by norm_num), zpow_one, ← hTen]
      ring
    · rfl

/-- With fuel for every digit, no zero is left at the end. -/
theorem digits_trim_mod_ne {fuel : Nat} {d : Decimal} (hDigits : d.digits ≠ 0)
    (hFuel : d.digits < 10 ^ fuel) : (trim fuel d).digits % 10 ≠ 0 := by
  induction fuel generalizing d with
  | zero => omega
  | succ fuel ih =>
    rw [trim]
    split
    · exact ih (by dsimp only; omega) (by dsimp only; omega)
    · rename_i h
      exact fun hMod => h ⟨hDigits, hMod⟩

/-- The shortest decimal is one that was found on a grid, without the zeros that end it. -/
theorem exists_shortest_eq (tie : Tie) {m : Nat} (h : 0 < m) :
    ∃ d, shortest tie m = trim (lengthOf d.digits) d ∧ (Interval.ofMagnitude m).Covers d.value := by
  let grid (n : Nat) := onGrid tie (Interval.ofMagnitude m) (unitsOfMagnitude m)
    (orderOf (unitsOfMagnitude m) - (n + 1 : Nat))
  have hFound : ((List.range 17).findSome? grid).isSome := by
    rw [List.findSome?_isSome_iff]
    exact ⟨16, by decide, Option.isSome_iff_ne_none.mpr (onGrid_seventeen_ne_none tie h)⟩
  obtain ⟨d, hd⟩ := Option.isSome_iff_exists.mp hFound
  obtain ⟨n, -, hn⟩ := List.exists_of_findSome?_eq_some hd
  refine ⟨d, ?_, covers_of_onGrid hn⟩
  rw [shortest]
  change trim (lengthOf (((List.range 17).findSome? grid).getD _).digits)
    (((List.range 17).findSome? grid).getD _) = _
  rw [hd]
  rfl

theorem shortest_covers (tie : Tie) {m : Nat} (h : 0 < m) :
    (Interval.ofMagnitude m).Covers (shortest tie m).value := by
  obtain ⟨d, hShortest, hCovers⟩ := exists_shortest_eq tie h
  rwa [hShortest, value_trim]

theorem digits_pos_of_covers {m : Nat} {d : Decimal} (h : 0 < m)
    (hCovers : (Interval.ofMagnitude m).Covers d.value) : 0 < d.digits := by
  have hLow : 0 < (Interval.ofMagnitude m).low := by
    have := Binary64.unitsOfMagnitude_strictMono h
    simp only [Interval.ofMagnitude]
    omega
  have hLe := hCovers.le.1
  by_contra hZero
  rw [value, Nat.eq_zero_of_not_pos hZero, Nat.cast_zero, zero_mul, mul_zero] at hLe
  exact absurd hLow (by exact_mod_cast not_lt.mpr hLe)

theorem digits_shortest_mod_ne (tie : Tie) {m : Nat} (h : 0 < m) :
    (shortest tie m).digits % 10 ≠ 0 := by
  obtain ⟨d, hShortest, hCovers⟩ := exists_shortest_eq tie h
  rw [hShortest]
  exact digits_trim_mod_ne (digits_pos_of_covers h hCovers).ne' (lt_ten_pow_lengthOf _)

/-- A decimal without zeros at the end is an integer only if its exponent is not negative. -/
theorem exponent_of_value_eq {d : Decimal} {n : Nat} (hDigits : d.digits % 10 ≠ 0)
    (h : d.value = n) : ∃ k : Nat, d.exponent = k ∧ n = d.digits * 10 ^ k := by
  rcases lt_or_ge d.exponent 0 with hNegative | hNonneg
  · obtain ⟨places, hPlaces⟩ := Int.eq_ofNat_of_zero_le (by omega : 0 ≤ -d.exponent - 1)
    rw [value, show d.exponent = -((places + 1 : Nat) : Int) by omega, zpow_neg,
      zpow_natCast, ← div_eq_mul_inv, div_eq_iff (by positivity)] at h
    have hNat : d.digits = n * 10 ^ (places + 1) := by exact_mod_cast h
    rw [hNat, Nat.pow_succ, ← Nat.mul_assoc, Nat.mul_mod_left] at hDigits
    exact absurd rfl hDigits
  · obtain ⟨k, hk⟩ := Int.eq_ofNat_of_zero_le hNonneg
    rw [value, hk, zpow_natCast] at h
    exact ⟨k, hk, by exact_mod_cast h.symm⟩

/-- Different numbers have different decimals, whichever way ties are broken. -/
theorem eq_of_value_shortest {tie tie' : Tie} {m n : Nat} (hm : 0 < m) (hn : 0 < n)
    (h : (shortest tie m).value = (shortest tie' n).value) : m = n :=
  Interval.eq_of_covers (shortest_covers tie hm) (h ▸ shortest_covers tie' hn)

end Decimal

end BotScript
