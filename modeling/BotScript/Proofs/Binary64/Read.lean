import BotScript.Proofs.Text.Numeral

/-! Which texts denote finite numbers: a sign or none, a decimal number, and an exponent or none.
The names of the other numbers begin with letters, so that no number in digits has one. -/

namespace BotScript

namespace Binary64

open Numeral (IsDecimal IsExponent signs)

/-! ### Numbers that are not finite -/

theorem named_not_finite {negative : Bool} {cs : List Char} {x : Binary64}
    (h : named negative cs = some x) : x.isFinite = false := by
  simp only [named] at h
  split at h
  · cases h
    cases negative <;> decide
  · split at h
    · cases h
      cases negative <;> decide
    · exact nomatch h

theorem isFinite_of_mul {x y : Binary64} (h : (x.mul y).isFinite = true) : x.isFinite = true := by
  have hNaN : nan.isFinite = false := by decide
  have hInfinity (negative : Bool) : (infinity negative).isFinite = false := by
    cases negative <;> decide
  rw [mul] at h
  split at h
  · rw [hNaN] at h
    exact nomatch h
  · rename_i hNumbers
    split at h
    · split at h
      · rw [hNaN] at h
        exact nomatch h
      · rw [hInfinity] at h
        exact nomatch h
    · rename_i hBounded
      simp only [isNaN, isInfinite, Bool.or_eq_true, decide_eq_true_eq] at hNumbers hBounded
      rw [isFinite, decide_eq_true_eq]
      omega

/-! ### Numbers in digits -/

/-- A character of a decimal number. -/
def InNumber (c : Char) : Prop := isDigit c ∨ c = '.'

theorem InNumber.toLower_eq {c : Char} (h : InNumber c) : c.toLower = c := by
  rcases h with h | rfl
  · simp only [isDigit, Bool.and_eq_true, decide_eq_true_eq] at h
    apply dif_neg
    rintro ⟨hA, -⟩
    exact absurd (UInt32.le_trans hA h.2) (by decide)
  · decide

theorem InNumber.ne {c d : Char} (h : InNumber c) (hDigit : isDigit d = false) (hPoint : d ≠ '.') :
    c ≠ d := by
  rintro rfl
  rcases h with h | h
  · rw [hDigit] at h
    exact nomatch h
  · exact hPoint h

/-- Reading goes by the first character of a number after the sign. -/
theorem IsDecimal.exists_cons {cs : List Char} (h : IsDecimal cs) :
    ∃ c rest, cs = c :: rest ∧ InNumber c := by
  obtain ⟨c, hc, -⟩ := h.digit
  cases cs with
  | nil => exact nomatch hc
  | cons d rest => exact ⟨d, rest, rfl, h.chars d List.mem_cons_self⟩

variable {sign mantissa exponent cs : List Char} {x : Binary64}

theorem named_cons {negative : Bool} {c : Char} (h : InNumber c) (rest : List Char) :
    named negative (c :: rest) = none := by
  have hi : c ≠ 'i' := h.ne (by decide) (by decide)
  have hn : c ≠ 'n' := h.ne (by decide) (by decide)
  simp [named, h.toLower_eq, hi, hn]

theorem read?_cons {c : Char} (h : InNumber c) (rest : List Char) :
    read? (String.ofList (c :: rest)) =
      (Numeral.read (c :: rest)).map (Numeral.toBinary64 false) := by
  have hMinus : c ≠ '-' := h.ne (by decide) (by decide)
  have hPlus : c ≠ '+' := h.ne (by decide) (by decide)
  simp [read?, named_cons h, hMinus, hPlus]

/-- A sign, a decimal number and an exponent are read as the numeral behind the sign. -/
theorem read?_of_sign (hSign : sign ∈ signs) (hMantissa : IsDecimal mantissa) :
    read? (String.ofList (sign ++ (mantissa ++ exponent))) =
      (Numeral.read (mantissa ++ exponent)).map (Numeral.toBinary64 (sign = ['-'])) := by
  obtain ⟨c, rest, rfl, hc⟩ := IsDecimal.exists_cons hMantissa
  simp only [signs, List.mem_cons, List.not_mem_nil, or_false] at hSign
  rcases hSign with rfl | rfl | rfl
  · exact read?_cons hc _
  · simp [read?, named_cons hc]
  · simp [read?, named_cons hc]

theorem isSome_read?_of_sign (hSign : sign ∈ signs) (hMantissa : IsDecimal mantissa)
    (hExponent : exponent = [] ∨ IsExponent exponent) :
    (read? (String.ofList (sign ++ (mantissa ++ exponent)))).isSome := by
  rw [read?_of_sign hSign hMantissa, Option.isSome_map]
  exact Numeral.read_isSome_iff.mpr ⟨mantissa, exponent, rfl, hMantissa, hExponent⟩

/-- Finite numbers are read from such texts only. -/
theorem exists_of_read? (h : read? (String.ofList cs) = some x) (hFinite : x.isFinite = true) :
    ∃ sign ∈ signs, ∃ mantissa exponent, cs = sign ++ (mantissa ++ exponent) ∧
      IsDecimal mantissa ∧ (exponent = [] ∨ IsExponent exponent) := by
  have hBody {negative : Bool} {body : List Char} (h : (named negative body).or
      ((Numeral.read body).map (Numeral.toBinary64 negative)) = some x) :
      ∃ mantissa exponent, body = mantissa ++ exponent ∧ IsDecimal mantissa ∧
        (exponent = [] ∨ IsExponent exponent) := by
    rw [← Numeral.read_isSome_iff]
    rcases Option.or_eq_some_iff.mp h with hNamed | ⟨-, hNumeral⟩
    · rw [named_not_finite hNamed] at hFinite
      exact nomatch hFinite
    · rw [← Option.isSome_map (f := Numeral.toBinary64 negative), hNumeral]
      rfl
  simp only [read?, String.toList_ofList] at h
  split at h
  · obtain ⟨mantissa, exponent, rfl, hDecimal, hExponent⟩ := hBody h
    exact ⟨['-'], by decide, mantissa, exponent, rfl, hDecimal, hExponent⟩
  · obtain ⟨mantissa, exponent, rfl, hDecimal, hExponent⟩ := hBody h
    exact ⟨['+'], by decide, mantissa, exponent, rfl, hDecimal, hExponent⟩
  · obtain ⟨mantissa, exponent, rfl, hDecimal, hExponent⟩ := hBody h
    exact ⟨[], by decide, mantissa, exponent, rfl, hDecimal, hExponent⟩

theorem isDecimal_of_read? (hChars : ∀ c ∈ cs, InNumber c) (h : (read? (String.ofList cs)).isSome) :
    IsDecimal cs := by
  cases cs with
  | nil => exact absurd h (by decide)
  | cons c rest =>
    have hRead : (Numeral.read (c :: rest)).isSome := by
      rwa [read?_cons (hChars c List.mem_cons_self), Option.isSome_map] at h
    obtain ⟨mantissa, exponent, hSplit, hDecimal, hExponent⟩ := Numeral.read_isSome_iff.mp hRead
    rcases hExponent with rfl | @⟨e, sign, digits, he, -⟩
    · rwa [hSplit, List.append_nil]
    · have hLetter : InNumber e := hChars e (by simp [hSplit])
      rcases he with rfl | rfl
      · exact absurd rfl (hLetter.ne (by decide) (by decide))
      · exact absurd rfl (hLetter.ne (by decide) (by decide))

end Binary64

end BotScript
