import BotScript.Proofs.Binary64.Shortest
import BotScript.Value.Text

/-! The text of a number tells it from all others.  The text of a finite number is a sign and a
numeral for its shortest decimal, and different numbers have different decimals. -/

namespace BotScript

namespace Binary64

/-- The size of the decimal that the text of a finite number shows. -/
def shownSize (tie : Tie) (x : Binary64) : ℚ :=
  if x.magnitude = 0 then 0 else (Decimal.shortest tie x.magnitude).value

/-- The decimal that the text of a finite number shows. -/
def shown (tie : Tie) (x : Binary64) : ℚ :=
  if x.isNegative then -x.shownSize tie else x.shownSize tie

variable {tie : Tie} {style : NumberStyle} {x y : Binary64}

theorem value_shortest_pos {m : Nat} (h : 0 < m) : 0 < (Decimal.shortest tie m).value := by
  have hDigits := Decimal.digits_pos_of_covers h (Decimal.shortest_covers tie h)
  exact mul_pos (by exact_mod_cast hDigits) (zpow_pos (by norm_num) _)

theorem shownSize_nonneg (tie : Tie) (x : Binary64) : 0 ≤ x.shownSize tie := by
  rw [shownSize]
  split
  · exact le_rfl
  · exact (value_shortest_pos (Nat.pos_of_ne_zero ‹_›)).le

theorem shownSize_eq_zero_iff : x.shownSize tie = 0 ↔ x.magnitude = 0 := by
  rw [shownSize]
  split
  · simp_all
  · exact iff_of_false (value_shortest_pos (Nat.pos_of_ne_zero ‹_›)).ne' ‹_›

theorem magnitude_eq_of_shownSize (h : x.shownSize tie = y.shownSize tie) :
    x.magnitude = y.magnitude := by
  by_cases hx : x.magnitude = 0
  · rw [hx, shownSize_eq_zero_iff.mp (h ▸ shownSize_eq_zero_iff.mpr hx)]
  · have hy : y.magnitude ≠ 0 := fun hy =>
      hx (shownSize_eq_zero_iff.mp (h.trans (shownSize_eq_zero_iff.mpr hy)))
    rw [shownSize, shownSize, if_neg hx, if_neg hy] at h
    exact Decimal.eq_of_value_shortest (Nat.pos_of_ne_zero hx) (Nat.pos_of_ne_zero hy) h

theorem eq_of_sign_of_magnitude (hSign : x.isNegative = y.isNegative)
    (hMagnitude : x.magnitude = y.magnitude) : x = y :=
  totalPlace_injective (by rw [totalPlace, totalPlace, hSign, hMagnitude])

/-! ### Finite numbers -/

theorem toList_render (style : NumberStyle) (h : x.isFinite = true) :
    (x.render style).toList = signText x.isNegative ++
      (if x.magnitude = 0 then Decimal.positional style.pointZero ⟨0, 0⟩
      else
        let d := Decimal.shortest style.tie x.magnitude
        if style.leastPositional ≤ d.leadingExponent ∧ d.leadingExponent ≤ style.mostPositional then
          d.positional style.pointZero
        else d.scientific style.plusSign).toList := by
  obtain ⟨hNaN, hInfinite⟩ := isFinite_iff.mp h
  have hSign : (if x.isNegative then "-" else "").toList = signText x.isNegative := by
    cases x.isNegative <;> rfl
  rw [render]
  simp only [hNaN, hInfinite, Bool.false_eq_true, if_false]
  split
  · rw [String.toList_append, hSign]
  · rw [String.toList_append, hSign]

theorem render_finite (style : NumberStyle) (h : x.isFinite = true) :
    ∃ body, (x.render style).toList = signText x.isNegative ++ body ∧
      Decimal.Spells body (x.shownSize style.tie) := by
  refine ⟨_, toList_render style h, ?_⟩
  rw [shownSize]
  split
  · simpa [Decimal.value] using Decimal.spells_positional ⟨0, 0⟩ style.pointZero
  · simp only
    split
    · exact Decimal.spells_positional _ _
    · exact Decimal.spells_scientific _ _

theorem eq_of_render_finite (hx : x.isFinite = true) (hy : y.isFinite = true)
    (h : x.render style = y.render style) : x = y := by
  obtain ⟨us, hxText, hus⟩ := render_finite style hx
  obtain ⟨vs, hyText, hvs⟩ := render_finite style hy
  rw [h, hyText] at hxText
  obtain ⟨hSign, rfl⟩ := sign_and_digits_inj hvs.first hus.first hxText
  exact eq_of_sign_of_magnitude hSign.symm (magnitude_eq_of_shownSize (hus.unique hvs))

theorem last_of_render_finite (style : NumberStyle) (h : x.isFinite = true) :
    ∃ c ∈ (x.render style).toList.getLast?, isDigit c := by
  obtain ⟨body, hText, hBody⟩ := render_finite style h
  have hNonempty : body ≠ [] := by
    obtain ⟨c, hc, -⟩ := hBody.first
    rintro rfl
    exact nomatch hc
  rw [hText, List.getLast?_append_of_ne_nil _ hNonempty]
  exact hBody.last

/-! ### All numbers -/

/-- Numbers that are not finite have names. -/
theorem render_not_finite (h : x.isFinite = false) :
    (x.isNaN = true ∧ x.render printedNumber = "NaN") ∨
      (x = infinity false ∧ x.render printedNumber = "+Inf") ∨
      (x = infinity true ∧ x.render printedNumber = "-Inf") := by
  by_cases hNaN : x.isNaN = true
  · exact .inl ⟨hNaN, by rw [render, if_pos hNaN]; rfl⟩
  · have hMagnitude : x.magnitude = infiniteMagnitude := by
      simp only [isFinite, isNaN, decide_eq_false_iff_not, decide_eq_true_eq] at h hNaN
      omega
    cases hSign : x.isNegative with
    | false =>
      obtain rfl : x = infinity false :=
        eq_of_sign_of_magnitude (hSign.trans (by decide)) (hMagnitude.trans (by decide))
      exact .inr (.inl ⟨rfl, by decide⟩)
    | true =>
      obtain rfl : x = infinity true :=
        eq_of_sign_of_magnitude (hSign.trans (by decide)) (hMagnitude.trans (by decide))
      exact .inr (.inr ⟨rfl, by decide⟩)

/-- The text of a number ends with a digit if the number is finite, and else with a letter. -/
theorem last_of_render (x : Binary64) :
    ∃ c ∈ (x.render printedNumber).toList.getLast?,
      isDigit c = x.isFinite ∧ (x.isFinite = false → c = 'N' ∨ c = 'f') := by
  cases h : x.isFinite with
  | true =>
    obtain ⟨c, hc, hDigit⟩ := last_of_render_finite printedNumber h
    exact ⟨c, hc, hDigit, nofun⟩
  | false =>
    rcases render_not_finite h with ⟨-, hText⟩ | ⟨-, hText⟩ | ⟨-, hText⟩
    · exact ⟨'N', by rw [hText]; rfl, rfl, fun _ => .inl rfl⟩
    · exact ⟨'f', by rw [hText]; rfl, rfl, fun _ => .inr rfl⟩
    · exact ⟨'f', by rw [hText]; rfl, rfl, fun _ => .inr rfl⟩

/-- Only NaNs share their text. -/
theorem render_eq_iff :
    x.render printedNumber = y.render printedNumber ↔
      x = y ∨ (x.isNaN = true ∧ y.isNaN = true) := by
  constructor
  · intro h
    obtain ⟨c, hc, hcDigit, -⟩ := last_of_render x
    obtain ⟨d, hd, hdDigit, -⟩ := last_of_render y
    rw [h] at hc
    obtain rfl : c = d := Option.mem_unique hc hd
    cases hx : x.isFinite with
    | true => exact .inl (eq_of_render_finite hx (hdDigit.symm.trans (hcDigit.trans hx)) h)
    | false =>
      have hy : y.isFinite = false := hdDigit.symm.trans (hcDigit.trans hx)
      rcases render_not_finite hx with ⟨hx, hxText⟩ | ⟨hx, hxText⟩ | ⟨hx, hxText⟩ <;>
        rcases render_not_finite hy with ⟨hy, hyText⟩ | ⟨hy, hyText⟩ | ⟨hy, hyText⟩ <;>
        rw [hxText, hyText] at h <;>
        first
        | exact .inr ⟨hx, hy⟩
        | exact .inl (hx.trans hy.symm)
        | exact absurd h (by decide)
  · rintro (rfl | ⟨hx, hy⟩)
    · rfl
    · rw [render, render, if_pos hx, if_pos hy]

/-! ### Integers -/

/-- A number shows an integer if its size and sign are those of the integer; `-0` shows 0 but has
another sign. -/
theorem shown_eq_iff {n : Int} : x ≠ negativeZero ∧ x.shown tie = n ↔
    x.isNegative = decide (n < 0) ∧ x.shownSize tie = n.natAbs := by
  have hNonneg := shownSize_nonneg tie x
  have hZero : x.shownSize tie = 0 → x.isNegative = true → x = negativeZero := fun hSize hSign =>
    eq_of_sign_of_magnitude (hSign.trans (by decide))
      ((shownSize_eq_zero_iff.mp hSize).trans (by decide))
  rw [shown]
  cases hSign : x.isNegative with
  | true =>
    rw [if_pos rfl, eq_comm (a := true), decide_eq_true_eq]
    constructor
    · rintro ⟨hne, hn⟩
      have hNegative : n < 0 := by
        refine lt_of_le_of_ne ?_ fun hn0 => hne (hZero ?_ hSign)
        · exact_mod_cast hn ▸ neg_nonpos.mpr hNonneg
        · rw [hn0] at hn
          exact_mod_cast neg_eq_zero.mp hn
      exact ⟨hNegative, by rw [Nat.cast_natAbs, abs_of_neg hNegative, Int.cast_neg, ← hn, neg_neg]⟩
    · rintro ⟨hNegative, hSize⟩
      rw [Nat.cast_natAbs, abs_of_neg hNegative] at hSize
      refine ⟨?_, by rw [hSize, Int.cast_neg, neg_neg]⟩
      rintro rfl
      rw [shownSize_eq_zero_iff.mpr (by decide)] at hSize
      have : n = 0 := by exact_mod_cast (neg_eq_zero.mp (by exact_mod_cast hSize.symm : -n = 0))
      omega
  | false =>
    rw [if_neg Bool.false_ne_true, eq_comm (a := false), decide_eq_false_iff_not, not_lt]
    have hne : x ≠ negativeZero := by
      rintro rfl
      exact absurd hSign (by decide)
    constructor
    · rintro ⟨-, hn⟩
      have hNonnegative : 0 ≤ n := by exact_mod_cast hn ▸ hNonneg
      exact ⟨hNonnegative, by rw [Nat.cast_natAbs, abs_of_nonneg hNonnegative, hn]⟩
    · rintro ⟨hNonnegative, hSize⟩
      exact ⟨hne, by rw [hSize, Nat.cast_natAbs, abs_of_nonneg hNonnegative]⟩

/-- An integer of at most twenty-one digits is shown by its digits. -/
theorem toList_render_of_integer {n : Nat} (hn : n < 10 ^ 21) (hFinite : x.isFinite = true)
    (hSize : x.shownSize printedNumber.tie = n) :
    (x.render printedNumber).toList = signText x.isNegative ++ Nat.toDigits 10 n := by
  rw [toList_render printedNumber hFinite]
  by_cases hZero : x.magnitude = 0
  · have hnZero : n = 0 := by
      rw [shownSize_eq_zero_iff.mpr hZero] at hSize
      exact_mod_cast hSize.symm
    rw [if_pos hZero, hnZero]
    rfl
  · rw [shownSize, if_neg hZero] at hSize
    rw [if_neg hZero]
    have hDigits := Decimal.digits_shortest_mod_ne printedNumber.tie (Nat.pos_of_ne_zero hZero)
    generalize Decimal.shortest printedNumber.tie x.magnitude = d at *
    obtain ⟨k, hk, rfl⟩ := Decimal.exponent_of_value_eq hDigits hSize
    have hText : Nat.toDigits 10 (d.digits * 10 ^ k) =
        Nat.toDigits 10 d.digits ++ List.replicate k '0' :=
      toDigits_mul_ten_pow (by omega) k
    have hLength : Decimal.lengthOf d.digits + k ≤ 21 := by
      have := (Nat.length_toDigits_le_iff (by decide) (by decide)).mpr hn
      rw [hText, List.length_append, List.length_replicate] at this
      exact this
    have hSome : 0 < Decimal.lengthOf d.digits := Nat.length_toDigits_pos
    have hPositional : printedNumber.leastPositional ≤ d.leadingExponent ∧
        d.leadingExponent ≤ printedNumber.mostPositional := by
      simp only [printedNumber, Decimal.leadingExponent, hk]
      omega
    rw [if_pos hPositional, hText, Decimal.positional, hk, if_pos (by omega)]
    simp [printedNumber, Decimal.digitText, Decimal.zeros]

/-- A finite number has the text of an integer if it shows that integer, and is not `-0`. -/
theorem render_eq_toString_iff {n : Int} (hn : n.natAbs < 10 ^ 21) (hFinite : x.isFinite = true) :
    x.render printedNumber = toString n ↔
      x ≠ negativeZero ∧ x.shown printedNumber.tie = n := by
  have hDigits : ∀ c ∈ Nat.toDigits 10 n.natAbs, isDigit c := fun c hc => isDigit_of_mem_toDigits hc
  have hNumeral := Decimal.spells_whole (by simp) hDigits rfl
  rw [natOfDigits_toDigits] at hNumeral
  rw [shown_eq_iff]
  constructor
  · intro h
    obtain ⟨body, hText, hBody⟩ := render_finite printedNumber hFinite
    rw [h, toList_toString_int] at hText
    obtain ⟨hSign, rfl⟩ := sign_and_digits_inj hNumeral.first hBody.first hText
    exact ⟨hSign.symm, hBody.unique hNumeral⟩
  · rintro ⟨hSign, hSize⟩
    rw [← String.toList_inj, toList_toString_int, toList_render_of_integer hn hFinite hSize, hSign]

end Binary64

end BotScript
