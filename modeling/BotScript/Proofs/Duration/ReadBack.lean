import BotScript.Proofs.Duration.Grammar
import BotScript.Proofs.Duration.Text
import BotScript.Proofs.Text.LowerCase

/-! Reading the text of a duration.  The text is a sequence of groups, one for each amount, and of
the groups only the last one is not read exactly; so what is read is the number of nanoseconds
rounded once to 53 significant bits.  A text with a sign is no duration. -/

namespace BotScript

namespace Duration

open Binary64 (Rounds Fits)
open Numeral (IsDecimal)

/-! ### The groups of a text -/

namespace Positional

def numeral (p : Positional) : Numeral := ⟨Nat.toDigits 10 p.whole, p.places, 0⟩

theorem value_numeral (p : Positional) : p.numeral.value = p.value := by
  rw [Numeral.value, Numeral.significand, Numeral.scale, numeral, zero_sub, natOfDigits_scaled,
    natOfDigits_toDigits, value]

theorem isDecimal_text (p : Positional) : IsDecimal p.text := by
  rw [text]
  split
  · rw [List.append_nil]
    exact Numeral.isDecimal_whole (by simp) isDigit_of_mem_whole
  · exact Numeral.isDecimal_point (.inl (by simp)) isDigit_of_mem_whole p.digits

theorem read_text (p : Positional) : Numeral.read p.text = some p.numeral := by
  rw [text, numeral]
  split
  · rename_i hNone
    rw [Numeral.read_whole (by simp) isDigit_of_mem_whole Numeral.endsNumber_nil, hNone]
    rfl
  · have hWhole : ∀ c ∈ Nat.toDigits 10 p.whole, isDigit c := isDigit_of_mem_whole
    have hPoint := Numeral.read_point (.inl (by simp)) hWhole p.digits Numeral.endsNumber_nil
    rwa [List.append_nil] at hPoint

theorem read?_text (p : Positional) :
    Binary64.read? (String.ofList p.text) = some (p.numeral.toBinary64 false) := by
  obtain ⟨c, rest, hText, hc⟩ := Binary64.IsDecimal.exists_cons p.isDecimal_text
  rw [hText, Binary64.read?_cons hc, ← hText, p.read_text]
  rfl

end Positional

theorem TextUnit.unitNanos?_name (u : TextUnit) :
    unitNanos? (String.ofList u.name) = some u.length := by
  cases u <;> decide

/-- The group as which an amount is read. -/
def Amount.group (a : Amount) : Group := ⟨a.number.numeral.toBinary64 false, a.unit.length⟩

theorem not_isAlphabetic_of_isDigit {c : Char} (h : isDigit c = true) : isAlphabetic c = false := by
  simp only [isDigit, Bool.and_eq_true, decide_eq_true_eq] at h
  have hHigh : c.toNat ≤ 57 := h.2
  have hUpper : ¬c.isUpper := fun hUpper =>
    absurd (UInt32.le_trans (of_decide_eq_true hUpper).1 h.2) (by decide)
  have hLower : ¬c.isLower := by
    rw [Char.isLower, Bool.and_eq_true, decide_eq_true_eq]
    exact fun hLower => absurd (UInt32.le_trans hLower.1 h.2) (by decide)
  rw [isAlphabetic, if_pos (by omega), Char.isAlpha]
  simp [hUpper, hLower]

theorem grouped_spelling (amounts : List Amount) :
    Grouped (spelling amounts) (amounts.map Amount.group) := by
  induction amounts with
  | nil => exact .nil
  | cons a rest ih =>
    have hStops : Stops isAlphabetic ([] ++ spelling rest) := by
      cases rest with
      | nil => exact stops_nil
      | cons b rest =>
        obtain ⟨c, hc, hDigit⟩ := b.number.exists_head?_text (b.unit.name ++ spelling rest)
        intro d hd
        rw [List.nil_append, spelling_cons] at hd
        obtain rfl := Option.mem_unique hd hc
        exact not_isAlphabetic_of_isDigit hDigit
    have hOpens : Opens (a.number.text ++ ([] ++ (a.unit.name ++ ([] ++ spelling rest)))) a.group
        (spelling rest) :=
      .mk a.number.isDecimal_text a.number.read?_text (by simp) a.unit.unitNanos?_name hStops
        (by simp)
    rw [List.nil_append, List.nil_append, ← spelling_cons] at hOpens
    exact .cons hOpens ih

/-! ### The characters of a text -/

/-- A character that stays when a text is prepared. -/
def Plain (c : Char) : Prop := LowerCase.Settled c ∧ isBlank c = false

theorem prepared_of_plain {s : String} (h : ∀ c ∈ s.toList, Plain c) : prepared s = s.toList := by
  have hTrim (cs : List Char) (hcs : ∀ c ∈ cs, Plain c) : trimLeft cs = cs := by
    cases cs with
    | nil => rfl
    | cons c rest =>
      rw [trimLeft, List.dropWhile_cons_of_neg (by simp [(hcs c List.mem_cons_self).2])]
  have hTrimmed : trimBlank s.toList = s.toList := by
    rw [trimBlank, hTrim _ h, hTrim _ fun c hc => h c (List.mem_reverse.mp hc),
      List.reverse_reverse]
  rw [prepared, hTrimmed, lowerCase, String.toList_ofList, String.toList_ofList,
    LowerCase.ofCharsAfter_of_settled fun c hc => (h c hc).1]

theorem plain_of_isNumberChar {c : Char} (h : isNumberChar c = true) : Plain c := by
  have hNumber := isNumberChar_iff.mp h
  have hLow : c.toNat < 128 := by
    rcases hNumber with hDigit | rfl
    · simp only [isDigit, Bool.and_eq_true, decide_eq_true_eq] at hDigit
      have hHigh : c.toNat ≤ 57 := hDigit.2
      omega
    · decide
  exact ⟨LowerCase.settled_ascii hLow hNumber.toLower_eq, isBlank_of_inNumber hNumber⟩

theorem plain_of_mem_name {u : TextUnit} : ∀ c ∈ u.name, Plain c := by
  have hAscii (c : Char) (hLow : c.toNat < 128) (hLower : c.toLower = c)
      (hBlank : isBlank c = false) : Plain c := ⟨LowerCase.settled_ascii hLow hLower, hBlank⟩
  have hMicro : Plain 'µ' :=
    ⟨LowerCase.settled_of_map_none (by decide) (by decide +kernel), by decide⟩
  have hh : Plain 'h' := hAscii 'h' (by decide) (by decide) (by decide)
  have hm : Plain 'm' := hAscii 'm' (by decide) (by decide) (by decide)
  have hn : Plain 'n' := hAscii 'n' (by decide) (by decide) (by decide)
  have hs : Plain 's' := hAscii 's' (by decide) (by decide) (by decide)
  cases u <;> simp [TextUnit.name, hMicro, hh, hm, hn, hs]

theorem plain_spelling (amounts : List Amount) : ∀ c ∈ spelling amounts, Plain c := by
  intro c hc
  obtain ⟨a, -, hc⟩ := List.mem_flatMap.mp hc
  rcases List.mem_append.mp hc with hc | hc
  · exact plain_of_isNumberChar (a.number.isNumberChar_of_mem c hc)
  · exact plain_of_mem_name c hc

/-! ### What the groups add up to -/

/-- A group added to the sum of those before it, as `total` does. -/
def addGroup (sum : Binary64) (g : Group) : Binary64 :=
  sum.add (g.amount.mul (.ofNat g.unitNanos))

theorem TextUnit.length_bounds (u : TextUnit) : 0 < u.length ∧ u.length ≤ 3600000000000 := by
  cases u <;> decide

theorem TextUnit.cast_length_bounds (u : TextUnit) :
    (1 : ℚ) ≤ u.length ∧ (u.length : ℚ) ≤ 3600000000000 :=
  ⟨by exact_mod_cast u.length_bounds.1, by exact_mod_cast u.length_bounds.2⟩

theorem TextUnit.size_length (u : TextUnit) :
    Rounds (.ofNat u.length) u.length ∧ (Binary64.ofNat u.length).size = u.length := by
  obtain ⟨-, hHigh⟩ := u.length_bounds
  have hRounds : Rounds (.ofNat u.length) u.length :=
    Binary64.rounds_ofNat (u.cast_length_bounds.2.trans_lt (by norm_num))
  exact ⟨hRounds, hRounds.size_eq (Binary64.fits_of_lt (by omega))⟩

theorem Positional.rounds_number {p : Positional}
    (hLow : p.value = 0 ∨ (10 : ℚ) ^ (-100 : Int) ≤ p.value) (hHigh : p.value < 2 ^ 200) :
    Rounds (p.numeral.toBinary64 false) p.value := by
  rw [← p.value_numeral] at hLow hHigh ⊢
  exact Binary64.rounds_toBinary64 hLow hHigh

section Adding

variable {sum : Binary64} {q : ℚ} {n m k : Nat} {u : TextUnit} {a : Amount}

/-- Hours and minutes are read and added exactly. -/
theorem size_add_whole (hSum : Rounds sum q) (hSize : sum.size = n) (hm : Fits m)
    (hProduct : Fits (m * u.length)) (hTotal : Fits (n + m * u.length))
    (hHigh : n + m * u.length < 2 ^ 64) :
    Rounds (addGroup sum (Amount.group ⟨.ofNat m, u⟩)) (n + m * u.length : Nat) ∧
      (addGroup sum (Amount.group ⟨.ofNat m, u⟩)).size = (n + m * u.length : Nat) := by
  obtain ⟨hLength, hLengthSize⟩ := u.size_length
  have hLess : m ≤ m * u.length := Nat.le_mul_of_pos_right m u.length_bounds.1
  have hBound {i : Nat} (hi : i < 2 ^ 64) : (i : ℚ) < 2 ^ 200 :=
    (show (i : ℚ) < 2 ^ 64 by exact_mod_cast hi).trans (by norm_num)
  have hNumber : Rounds ((Positional.ofNat m).numeral.toBinary64 false) m := by
    rw [← Positional.value_ofNat m]
    refine Positional.rounds_number ?_ ?_
    · rw [Positional.value_ofNat]
      rcases Nat.eq_zero_or_pos m with rfl | hPos
      · exact .inl Nat.cast_zero
      · have hOne : (1 : ℚ) ≤ m := by exact_mod_cast hPos
        exact .inr ((by norm_num : (10 : ℚ) ^ (-100 : Int) ≤ 1).trans hOne)
    · rw [Positional.value_ofNat]
      exact hBound (by omega)
  have hTerm := hNumber.mul hLength
  rw [hNumber.size_eq hm, hLengthSize, ← Nat.cast_mul] at hTerm
  have hTerm := hTerm (hBound (by omega))
  have hNext := hSum.add hTerm
  rw [hSize, hTerm.size_eq hProduct, ← Nat.cast_add] at hNext
  have hNext := hNext (hBound hHigh)
  exact ⟨hNext, hNext.size_eq hTotal⟩

theorem value_eq_div (ha : a.nanos = k) : a.number.value = k / a.unit.length := by
  have hLength : (a.unit.length : ℚ) ≠ 0 := by exact_mod_cast a.unit.length_bounds.1.ne'
  rw [eq_div_iff hLength, ← ha, Amount.nanos]

theorem rounds_amount (ha : a.nanos = k) (hk : k ≤ 60000000000) :
    Rounds (a.number.numeral.toBinary64 false) a.number.value := by
  obtain ⟨hLow, hHigh⟩ := a.unit.cast_length_bounds
  have hkHigh : (k : ℚ) ≤ 60000000000 := by exact_mod_cast hk
  have hValue := value_eq_div ha
  refine Positional.rounds_number ?_ ?_
  · rcases Nat.eq_zero_or_pos k with rfl | hPos
    · exact .inl (by rw [hValue, Nat.cast_zero, zero_div])
    · refine .inr ?_
      have hOne : (1 : ℚ) ≤ k := by exact_mod_cast hPos
      rw [hValue, le_div_iff₀ (by linarith)]
      calc (10 : ℚ) ^ (-100 : Int) * a.unit.length ≤ 10 ^ (-100 : Int) * 3600000000000 :=
            mul_le_mul_of_nonneg_left hHigh (by positivity)
        _ ≤ 1 := by norm_num
        _ ≤ k := hOne
  · have hLess : a.number.value ≤ k := by
      rw [hValue]
      exact div_le_self (Nat.cast_nonneg k) hLow
    linarith

/-- An amount of less than a minute is read with an error that is small beside a nanosecond. -/
theorem rounds_group (ha : a.nanos = k) (hk : k ≤ 60000000000) :
    ∃ v, Rounds (a.group.amount.mul (.ofNat a.group.unitNanos)) v ∧
      |(a.group.amount.mul (.ofNat a.group.unitNanos)).size - k| ≤ 1 / 8 := by
  obtain ⟨hLength, hLengthSize⟩ := a.unit.size_length
  obtain ⟨hLow, hHigh⟩ := a.unit.cast_length_bounds
  have hkLow : (0 : ℚ) ≤ k := Nat.cast_nonneg k
  have hkHigh : (k : ℚ) ≤ 60000000000 := by exact_mod_cast hk
  have hNumber := rounds_amount ha hk
  have hValue : 0 ≤ a.number.value := by
    rw [value_eq_div ha]
    positivity
  have hNear := hNumber.size_near hValue
  have hTerm := hNumber.mul hLength
  rw [hLengthSize] at hTerm
  rw [Amount.group]
  generalize a.number.numeral.toBinary64 false = x at *
  -- The number is off by its rounding, the length of the unit times as much as a term.
  have hScaled : |x.size * a.unit.length - k| ≤ 1 / 1000 := by
    have hSplit : x.size * a.unit.length - k = (x.size - a.number.value) * a.unit.length := by
      rw [← ha, Amount.nanos]
      ring
    have hLengthPos : (0 : ℚ) < a.unit.length := by linarith
    rw [hSplit, abs_mul, abs_of_pos hLengthPos]
    calc |x.size - a.number.value| * a.unit.length
        ≤ (a.number.value / 2 ^ 53 + 1 / 2 ^ 64) * a.unit.length :=
          mul_le_mul_of_nonneg_right hNear hLengthPos.le
      _ = k / 2 ^ 53 + a.unit.length / 2 ^ 64 := by
          rw [← ha, Amount.nanos]
          ring
      _ ≤ 1 / 1000 := by linarith
  have hProduct : 0 ≤ x.size * a.unit.length := mul_nonneg x.size_nonneg (by linarith)
  generalize x.size * a.unit.length = y at *
  obtain ⟨hBelow, hAbove⟩ := abs_le.mp hScaled
  have hTerm := hTerm (by linarith)
  refine ⟨y, hTerm, ?_⟩
  have hTermNear := hTerm.size_near hProduct
  calc |(x.mul (.ofNat a.unit.length)).size - k|
      ≤ |(x.mul (.ofNat a.unit.length)).size - y| + |y - k| := abs_sub_le _ _ _
    _ ≤ 1 / 8 := by linarith

theorem rounds_add_last (hSum : Rounds sum q) (hSize : sum.size = n) (hn : n < 2 ^ 64)
    (ha : a.nanos = k) (hk : k ≤ 60000000000) :
    ∃ v : ℚ, |v - (n + k : Nat)| ≤ 1 / 8 ∧ Rounds (addGroup sum a.group) v := by
  obtain ⟨v, hTerm, hNear⟩ := rounds_group ha hk
  have hnHigh : (n : ℚ) < 2 ^ 64 := by exact_mod_cast hn
  have hkHigh : (k : ℚ) ≤ 60000000000 := by exact_mod_cast hk
  have hNext := hSum.add hTerm
  rw [hSize] at hNext
  refine ⟨_, ?_, hNext ?_⟩
  · rw [Nat.cast_add, add_sub_add_left_eq_sub]
    exact hNear
  · have hTermHigh := (abs_le.mp hNear).2
    linarith

end Adding

theorem size_zero : Binary64.zero.size = (0 : Nat) :=
  Binary64.rounds_zero.size_eq (Binary64.fits_of_lt (by decide))

/-- Whole hours have 13 zero bits at the end and whole minutes 11, so that both fit. -/
theorem fits_hours {n : Nat} (hn : n < 2 ^ 63) : Fits (n / 3600000000000 * 3600000000000) :=
  ⟨n / 3600000000000 * 439453125, 13, by omega, by omega⟩

theorem fits_minutes {n : Nat} (hn : n < 2 ^ 63) : Fits (n / 60000000000 * 60000000000) :=
  ⟨n / 60000000000 * 29296875, 11, by omega, by omega⟩

theorem size_minutes {sum : Binary64} {q : ℚ} {n : Nat} (hn : n < 2 ^ 63) (hSum : Rounds sum q)
    (hSize : sum.size = (n / 3600000000000 * 3600000000000 : Nat)) :
    let minutes : Amount := ⟨.ofNat (n % 3600000000000 / 60000000000), .minute⟩
    ∃ q, Rounds (addGroup sum minutes.group) q ∧
      (addGroup sum minutes.group).size = (n / 60000000000 * 60000000000 : Nat) := by
  have hWhole : n / 3600000000000 * 3600000000000 +
      n % 3600000000000 / 60000000000 * TextUnit.minute.length = n / 60000000000 * 60000000000 := by
    simp only [TextUnit.length]
    omega
  have hProduct : n % 3600000000000 / 60000000000 * TextUnit.minute.length < 2 ^ 53 := by
    simp only [TextUnit.length]
    omega
  have hAdded := size_add_whole hSum hSize (Binary64.fits_of_lt (by omega))
    (Binary64.fits_of_lt hProduct) (by simpa only [hWhole] using fits_minutes hn) (by omega)
  rw [hWhole] at hAdded
  exact ⟨_, hAdded⟩

theorem rounds_total {n : Nat} (hn : n < 2 ^ 63) :
    ∃ v : ℚ, |v - n| ≤ 1 / 8 ∧ Rounds (total ((amountsOf n).map Amount.group)) v := by
  have hSingle {a : Amount} (ha : a.nanos = n) (hSmall : n ≤ 60000000000) :
      ∃ v : ℚ, |v - n| ≤ 1 / 8 ∧ Rounds (total [a.group]) v := by
    have hLast := rounds_add_last Binary64.rounds_zero size_zero (by decide) ha hSmall
    rwa [Nat.zero_add] at hLast
  have hSeconds : Amount.nanos ⟨.ofScaled (n % 60000000000) 9, .second⟩ =
      (n % 60000000000 : Nat) := nanos_ofScaled _ (by decide) rfl
  have hLast {sum : Binary64} {q : ℚ} (hSum : Rounds sum q)
      (hSize : sum.size = (n / 60000000000 * 60000000000 : Nat)) :
      ∃ v : ℚ, |v - n| ≤ 1 / 8 ∧
        Rounds (addGroup sum (Amount.group ⟨.ofScaled (n % 60000000000) 9, .second⟩)) v := by
    have hAdded := rounds_add_last hSum hSize (by omega) hSeconds (by omega)
    rwa [Nat.div_add_mod'] at hAdded
  rw [amountsOf]
  simp only
  split_ifs with hZero hNanos hMicros hMillis hHours hMinutes
  · exact hSingle (by simp [nanos_ofNat, hZero]) (by omega)
  · exact hSingle (by simp [nanos_ofNat, TextUnit.length]) (by omega)
  · exact hSingle (nanos_ofScaled n (by decide) rfl) (by omega)
  · exact hSingle (nanos_ofScaled n (by decide) rfl) (by omega)
  · have hFits : Fits (n / 3600000000000 * TextUnit.hour.length) := fits_hours hn
    have hBound : n / 3600000000000 * TextUnit.hour.length < 2 ^ 64 := by
      simp only [TextUnit.length]
      omega
    have hHour := size_add_whole Binary64.rounds_zero size_zero (Binary64.fits_of_lt (by omega))
      hFits (by rwa [Nat.zero_add]) (by rwa [Nat.zero_add])
    rw [Nat.zero_add] at hHour
    obtain ⟨q, hMinute, hMinuteSize⟩ := size_minutes hn hHour.1 hHour.2
    exact hLast hMinute hMinuteSize
  · have hHour : Binary64.zero.size = (n / 3600000000000 * 3600000000000 : Nat) := by
      rw [size_zero, Nat.eq_zero_of_not_pos hHours]
    obtain ⟨q, hMinute, hMinuteSize⟩ := size_minutes hn Binary64.rounds_zero hHour
    exact hLast hMinute hMinuteSize
  · have hNone : n / 60000000000 * 60000000000 = 0 := by omega
    exact hLast Binary64.rounds_zero (by rw [hNone, size_zero])

/-! ### What is read -/

/-- A natural number with 53 significant bits than which none is nearer to `n`. -/
structure Nearest (c n : Nat) : Prop where
  fits : Fits c
  nearest : ∀ y, Fits y → |(c : Int) - n| ≤ |(y : Int) - n|

theorem Nearest.eq {c n : Nat} (h : Nearest c n) (hn : Fits n) : c = n := by
  have hNear := h.nearest n hn
  rw [sub_self, abs_zero] at hNear
  have hZero := abs_nonpos_iff.mp hNear
  omega

theorem nearest_self {n : Nat} (h : Fits n) : Nearest n n := ⟨h, fun y _ => by simp⟩

section Whole

variable {x : Binary64} {v : ℚ} {c n : Nat}

/-- Rounding a number close to an integer gives a number nearest to the integer: below `2 ^ 53` the
integer itself, and from there on an integer. -/
theorem exists_nearest (h : Rounds x v) (hNear : |v - n| ≤ 1 / 8) :
    ∃ c, Nearest c n ∧ |x.size - c| < 1 / 2 ∧ (c < 2 ^ 53 ∨ x.size = c) := by
  rcases Nat.lt_or_ge n (2 ^ 53) with hSmall | hGreat
  · have hFits := Binary64.fits_of_lt hSmall
    refine ⟨n, nearest_self hFits, ?_, .inl hSmall⟩
    have hRounded := h.size_nearest hFits
    rw [abs_sub_comm (n : ℚ) v] at hRounded
    calc |x.size - n| ≤ |x.size - v| + |v - n| := abs_sub_le _ _ _
      _ < 1 / 2 := by linarith
  · have hLarge : (2 : ℚ) ^ 53 ≤ n := by exact_mod_cast hGreat
    obtain ⟨hLow, hHigh⟩ := abs_le.mp hNear
    have hInteger : 2 ^ 52 < x.size := by
      have hSize := (abs_le.mp (h.size_near (by linarith))).1
      linarith
    obtain ⟨c, hc, hSize⟩ := h.exists_size_eq hInteger
    refine ⟨c, ⟨hc, fun y hy => ?_⟩, by simp [hSize], .inr hSize⟩
    have hRounded := h.size_nearest hy
    rw [hSize] at hRounded
    have hLess : |(c : ℚ) - n| < |(y : ℚ) - n| + 1 := by
      have hLeft : |(c : ℚ) - n| ≤ |(c : ℚ) - v| + |v - n| := abs_sub_le _ _ _
      have hRight : |(y : ℚ) - v| ≤ |(y : ℚ) - n| + |(n : ℚ) - v| := abs_sub_le _ _ _
      rw [abs_sub_comm (n : ℚ) v] at hRight
      linarith
    have hLess' : |(c : Int) - n| < |(y : Int) - n| + 1 := by exact_mod_cast hLess
    exact Int.lt_add_one_iff.mp hLess'

theorem below_iff_size_lt (h : x.isFinite = true) : Below x ↔ x.size < 2 ^ 63 := by
  rw [Below, Binary64.size, div_lt_iff₀ Binary64.unitsPerOne_pos]
  constructor
  · rintro ⟨-, hLess⟩
    exact_mod_cast hLess
  · intro hLess
    exact ⟨h, by exact_mod_cast hLess⟩

theorem ofBinary64?_of_below (h : Below x) : ofBinary64? x = ofNanos? x.roundHalfAway := by
  have hPassed := h
  rw [Below, ← decide_eq_true_eq (p := _ < _), ← Bool.and_eq_true] at hPassed
  rw [ofBinary64?, if_pos hPassed]

theorem ofBinary64?_total (hn : n < 2 ^ 63) :
    ∃ c, Nearest c n ∧
      ofBinary64? (total ((amountsOf n).map Amount.group)) =
        if c < 2 ^ 63 then ofNanos? c else none := by
  obtain ⟨v, hNear, hRounds⟩ := rounds_total hn
  generalize total ((amountsOf n).map Amount.group) = x at *
  obtain ⟨c, hNearest, hSize, hExact⟩ := exists_nearest hRounds hNear
  have hBelow : Below x ↔ c < 2 ^ 63 := by
    rw [below_iff_size_lt hRounds.finite]
    rcases hExact with hSmall | hExact
    · have hcHigh : (c : ℚ) < 2 ^ 53 := by exact_mod_cast hSmall
      have hHigh := (abs_lt.mp hSize).2
      exact iff_of_true (by linarith) (hSmall.trans (by decide))
    · rw [hExact]
      exact_mod_cast Iff.rfl
  refine ⟨c, hNearest, ?_⟩
  split
  · rename_i hc
    rw [ofBinary64?_of_below (hBelow.mpr hc), Binary64.roundHalfAway_of_near hRounds.positive hSize]
  · rename_i hc
    have hNone : ¬(ofBinary64? x).isSome := by
      rw [isSome_ofBinary64?_iff, hBelow]
      exact hc
    simpa using hNone

end Whole

/-! ### Texts -/

variable {d : Duration}

theorem prepared_text (d : Duration) :
    prepared d.text = signText (decide (d.clampedNanos < 0)) ++
      spelling (amountsOf d.clampedNanos.natAbs) := by
  have hMinus : Plain '-' := ⟨LowerCase.settled_ascii (by decide) (by decide), by decide⟩
  rw [← toList_text]
  refine prepared_of_plain fun c hc => ?_
  rw [toList_text, List.mem_append] at hc
  rcases hc with hSign | hAmounts
  · rw [signText] at hSign
    split at hSign
    · rwa [List.mem_singleton.mp hSign]
    · exact absurd hSign List.not_mem_nil
  · exact plain_spelling _ c hAmounts

theorem grouped_amountsOf (n : Nat) :
    (amountsOf n).map Amount.group ≠ [] ∧
      Grouped (spelling (amountsOf n)) ((amountsOf n).map Amount.group) :=
  ⟨by simp [amountsOf_ne_nil], grouped_spelling _⟩

theorem read?_text_of_nonneg (h : 0 ≤ d.clampedNanos) :
    read? d.text = ofBinary64? (total ((amountsOf d.clampedNanos.natAbs).map Amount.group)) := by
  obtain ⟨hSome, hGrouped⟩ := grouped_amountsOf d.clampedNanos.natAbs
  have hText := prepared_text d
  rw [decide_eq_false (not_lt.mpr h), signText, if_neg Bool.false_ne_true, List.nil_append] at hText
  obtain ⟨hNonempty, hRead⟩ := hGrouped.read?_eq_none hSome
  rw [← hText] at hNonempty hRead
  rw [read?, readNanos?_of_groups hRead, if_neg hNonempty, hText,
    readGroups_eq_some_iff.mpr hGrouped, Option.map_some, Option.bind_some]

/-- A sign begins neither a number with a unit nor a group. -/
theorem read?_text_of_neg (h : d.clampedNanos < 0) : read? d.text = none := by
  obtain ⟨hSome, hGrouped⟩ := grouped_amountsOf d.clampedNanos.natAbs
  have hText := prepared_text d
  rw [decide_eq_true h, signText, if_pos rfl] at hText
  have hRead : Binary64.read? (String.ofList (prepared d.text)) = none := by
    rw [hText]
    obtain ⟨g, rest, hOpens⟩ := hGrouped.exists_opens hSome
    have hNone := hOpens.read_eq_none
    obtain ⟨c, body, hBody, hc⟩ := hOpens.exists_cons
    rw [hBody] at hNone ⊢
    simp [Binary64.read?, Binary64.named_cons hc, hNone]
  have hGroups : readGroups (prepared d.text) = none := by
    rw [hText, Option.eq_none_iff_forall_ne_some]
    intro gs hgs
    cases readGroups_eq_some_iff.mp hgs with
    | cons hOpens =>
      obtain ⟨c, rest, hBody, hc⟩ := hOpens.exists_cons
      exact hc.ne (by decide) (by decide) (List.cons.inj hBody).1.symm
  rw [read?, readNanos?_of_groups hRead, hGroups, hText]
  rfl

end Duration

namespace Value

open Duration

section WithinBits

variable {d : Duration}

theorem clampedNanos_eq
    (hBits : Int64.minValue.toInt ≤ d.nanos ∧ d.nanos ≤ Int64.maxValue.toInt) :
    d.clampedNanos = d.nanos := by
  rw [clampedNanos, min_eq_right hBits.2, max_eq_right hBits.1]

theorem readDuration_of_neg
    (hBits : Int64.minValue.toInt ≤ d.nanos ∧ d.nanos ≤ Int64.maxValue.toInt)
    (hNegative : d.nanos < 0) : readDuration d.text = .error (.duration d.text) := by
  rw [readDuration, read?_text_of_neg (clampedNanos_eq hBits ▸ hNegative)]

theorem readDuration_of_nonneg
    (hBits : Int64.minValue.toInt ≤ d.nanos ∧ d.nanos ≤ Int64.maxValue.toInt)
    (hNonneg : 0 ≤ d.nanos) :
    ∃ c, Nearest c d.nanos.toNat ∧
      (c < 2 ^ 63 → ∃ e : Duration, e.nanos = c ∧ readDuration d.text = .ok e) ∧
      (2 ^ 63 ≤ c → readDuration d.text = .error (.duration d.text)) := by
  have hClamped := clampedNanos_eq hBits
  have hMost : Int64.maxValue.toInt = 2 ^ 63 - 1 := by decide
  obtain ⟨c, hc, hTotal⟩ := ofBinary64?_total (n := d.nanos.toNat) (by omega)
  have hRead := read?_text_of_nonneg (hClamped ▸ hNonneg)
  rw [hClamped, show d.nanos.natAbs = d.nanos.toNat by omega, hTotal] at hRead
  refine ⟨c, hc, fun hLess => ?_, fun hGreat => ?_⟩
  · have hRange : (c : Int).natAbs ≤ maxNanos := by
      simp only [maxNanos]
      omega
    rw [if_pos hLess, ofNanos?, dif_pos hRange] at hRead
    exact ⟨⟨c, hRange⟩, rfl, by rw [readDuration, hRead]⟩
  · rw [readDuration, hRead, if_neg (by omega)]

/-- The text of a duration within 64 bits reads back as the duration just if this is not negative
and its nanoseconds have 53 significant bits.  Negative durations do not read back at all, and
others as a nearest number with 53 significant bits, if that is still within 64 bits. -/
theorem readDuration_text
    (hBits : Int64.minValue.toInt ≤ d.nanos ∧ d.nanos ≤ Int64.maxValue.toInt) :
    (readDuration d.text = .ok d ↔ 0 ≤ d.nanos ∧ Binary64.Fits d.nanos.toNat) ∧
    (d.nanos < 0 → readDuration d.text = .error (.duration d.text)) ∧
    (0 ≤ d.nanos → ∃ c, Nearest c d.nanos.toNat ∧
      (c < 2 ^ 63 → ∃ e : Duration, e.nanos = c ∧ readDuration d.text = .ok e) ∧
      (2 ^ 63 ≤ c → readDuration d.text = .error (.duration d.text))) := by
  refine ⟨⟨fun hSame => ?_, ?_⟩, readDuration_of_neg hBits, readDuration_of_nonneg hBits⟩
  · have hNonneg : 0 ≤ d.nanos := by
      by_contra hLess
      rw [readDuration_of_neg hBits (by omega)] at hSame
      cases hSame
    obtain ⟨c, hc, hOk, hError⟩ := readDuration_of_nonneg hBits hNonneg
    rcases Nat.lt_or_ge c (2 ^ 63) with hLess | hGreat
    · obtain ⟨e, he, hRead⟩ := hOk hLess
      cases hSame.symm.trans hRead
      rw [he, Int.toNat_natCast]
      exact ⟨by omega, hc.fits⟩
    · rw [hError hGreat] at hSame
      cases hSame
  · rintro ⟨hNonneg, hFits⟩
    obtain ⟨c, hc, hOk, -⟩ := readDuration_of_nonneg hBits hNonneg
    have hMost : Int64.maxValue.toInt = 2 ^ 63 - 1 := by decide
    obtain rfl := hc.eq hFits
    obtain ⟨e, he, hRead⟩ := hOk (by omega)
    have hSame : e = d := by
      cases e
      cases d
      simp only [Duration.mk.injEq] at *
      omega
    rw [hRead, hSame]

theorem readDuration_text_of_hours :
    (Int64.minValue.toInt ≤ 5400000000000 ∧ 5400000000000 ≤ Int64.maxValue.toInt) ∧
      readDuration (Duration.text ⟨5400000000000, by decide⟩) = .ok ⟨5400000000000, by decide⟩ :=
  ⟨by decide, (readDuration_text (by decide)).1.mpr ⟨by decide, Binary64.fits_of_lt (by decide)⟩⟩

/-- Minus five seconds and `2 ^ 53 + 1` nanoseconds are not read back. -/
theorem readDuration_text_differs :
    (Int64.minValue.toInt ≤ -5000000000 ∧ 9007199254740993 ≤ Int64.maxValue.toInt) ∧
      readDuration (Duration.text ⟨-5000000000, by decide⟩) = .error (.duration "-5s") ∧
      readDuration (Duration.text ⟨9007199254740993, by decide⟩) =
        .ok ⟨9007199254740992, by decide⟩ :=
  ⟨by decide, by decide +kernel, by decide +kernel⟩

end WithinBits

end Value

end BotScript
