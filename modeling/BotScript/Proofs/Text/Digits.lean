import BotScript.Binary64.Read
import BotScript.Instant
import Mathlib.Algebra.Order.Field.Rat
import Mathlib.Data.List.TakeWhile
import Mathlib.Tactic.FieldSimp
import Mathlib.Tactic.Ring

/-! Decimal digits and what they denote: an integer, or, as the places after a point, a fraction
below 1.  Zeros in front do not change the integer and zeros at the end do not change the
fraction, so neither does what `padded` adds or what `trimZeros` takes away. -/

namespace BotScript

/-! ### Where a run of characters ends -/

section Runs

variable {α : Type} {p : α → Bool} {xs ys us vs : List α}

/-- A text does not go on with a character of the run. -/
def Stops (p : α → Bool) (rest : List α) : Prop := ∀ c ∈ rest.head?, p c = false

theorem stops_nil : Stops p [] := by simp [Stops]

theorem stops_cons {c : α} (h : p c = false) : Stops p (c :: us) := by simpa [Stops] using h

theorem takeWhile_append_of_stops (hxs : ∀ c ∈ xs, p c) (hus : Stops p us) :
    (xs ++ us).takeWhile p = xs := by
  rw [List.takeWhile_append_of_pos hxs]
  cases us with
  | nil => simp
  | cons c us => simp [List.takeWhile_cons_of_neg (a := c), hus c rfl]

theorem dropWhile_append_of_stops (hxs : ∀ c ∈ xs, p c) (hus : Stops p us) :
    (xs ++ us).dropWhile p = us := by
  rw [List.dropWhile_append_of_pos hxs]
  cases us with
  | nil => rfl
  | cons c us => simp [List.dropWhile_cons_of_neg (a := c), hus c rfl]

/-- Every text begins with a run, which may be empty. -/
theorem exists_run (p : α → Bool) (cs : List α) :
    ∃ run rest, cs = run ++ rest ∧ (∀ c ∈ run, p c) ∧ Stops p rest := by
  refine ⟨cs.takeWhile p, cs.dropWhile p, List.takeWhile_append_dropWhile.symm,
    fun c => List.mem_takeWhile_imp, ?_⟩
  intro c hc
  have hNot := List.head?_dropWhile_not p cs
  rw [Option.mem_def.mp hc] at hNot
  simpa using hNot

/-- A run and what follows it are known by the whole. -/
theorem append_inj_of_stops (hxs : ∀ c ∈ xs, p c) (hys : ∀ c ∈ ys, p c) (hus : Stops p us)
    (hvs : Stops p vs) (h : xs ++ us = ys ++ vs) : xs = ys ∧ us = vs := by
  have hTake := congrArg (List.takeWhile p) h
  have hDrop := congrArg (List.dropWhile p) h
  rw [takeWhile_append_of_stops hxs hus, takeWhile_append_of_stops hys hvs] at hTake
  rw [dropWhile_append_of_stops hxs hus, dropWhile_append_of_stops hys hvs] at hDrop
  exact ⟨hTake, hDrop⟩

end Runs

/-! ### Integers -/

theorem isDigit_eq (c : Char) : isDigit c = c.isDigit := rfl

theorem isDigit_of_mem_toDigits {n : Nat} {c : Char} (h : c ∈ Nat.toDigits 10 n) :
    isDigit c = true := by
  rw [isDigit_eq]
  exact Nat.isDigit_of_mem_toDigits (by decide) (by decide) h

theorem isDigit_of_mem_zeros {n : Nat} {c : Char} (h : c ∈ List.replicate n '0') :
    isDigit c = true := by
  rw [List.eq_of_mem_replicate h]
  decide

theorem natOfDigits_eq (ds : List Char) : natOfDigits ds = Nat.ofDigitChars 10 ds 0 :=
  Nat.ofDigitChars_eq_foldl.symm

theorem natOfDigits_append (xs ys : List Char) :
    natOfDigits (xs ++ ys) = natOfDigits xs * 10 ^ ys.length + natOfDigits ys := by
  simp only [natOfDigits_eq]
  rw [Nat.ofDigitChars_append, Nat.ofDigitChars_eq_ofDigitChars_zero, Nat.mul_comm]

@[simp] theorem natOfDigits_toDigits (n : Nat) : natOfDigits (Nat.toDigits 10 n) = n := by
  rw [natOfDigits_eq, Nat.ofDigitChars_ten_toDigits]

@[simp] theorem natOfDigits_zeros (n : Nat) : natOfDigits (List.replicate n '0') = 0 := by
  rw [natOfDigits_eq, Nat.ofDigitChars_replicate_zero, Nat.mul_zero]

theorem toDigits_injective {m n : Nat} (h : Nat.toDigits 10 m = Nat.toDigits 10 n) : m = n := by
  rw [← natOfDigits_toDigits m, h, natOfDigits_toDigits]

theorem toDigits_mul_ten_pow {n : Nat} (h : 0 < n) (k : Nat) :
    Nat.toDigits 10 (n * 10 ^ k) = Nat.toDigits 10 n ++ List.replicate k '0' := by
  induction k with
  | zero => simp
  | succ k ih =>
    have hPos : 0 < n * 10 ^ k := Nat.mul_pos h (Nat.pow_pos (by decide))
    calc Nat.toDigits 10 (n * 10 ^ (k + 1))
        = Nat.toDigits 10 (10 * (n * 10 ^ k) + 0) := by
          rw [Nat.add_zero, Nat.pow_succ]
          congr 1
          ring
      _ = Nat.toDigits 10 (n * 10 ^ k) ++ ['0'] :=
          (Nat.toDigits_append_toDigits (by decide) hPos (by decide)).symm
      _ = Nat.toDigits 10 n ++ List.replicate (k + 1) '0' := by
          rw [ih, List.append_assoc, List.replicate_succ']

theorem exists_head?_digit {cs : List Char} (rest : List Char) (hNonempty : cs ≠ [])
    (hDigits : ∀ c ∈ cs, isDigit c) : ∃ c ∈ (cs ++ rest).head?, isDigit c := by
  obtain ⟨c, cs, rfl⟩ := List.exists_cons_of_ne_nil hNonempty
  exact ⟨c, rfl, hDigits c List.mem_cons_self⟩

theorem exists_getLast?_digit {cs : List Char} (before : List Char) (hNonempty : cs ≠ [])
    (hDigits : ∀ c ∈ cs, isDigit c) : ∃ c ∈ (before ++ cs).getLast?, isDigit c := by
  refine ⟨cs.getLast hNonempty, ?_, hDigits _ (List.getLast_mem hNonempty)⟩
  rw [List.getLast?_append_of_ne_nil _ hNonempty, List.getLast?_eq_some_getLast hNonempty]
  rfl

/-! ### Signs -/

/-- What stands before the digits. -/
def signText (negative : Bool) : List Char := if negative then ['-'] else []

/-- What stands before digits and what follows are known by the whole, if a digit follows. -/
theorem before_digits_inj {xs ys us vs : List Char} (hxs : ∀ c ∈ xs, isDigit c = false)
    (hys : ∀ c ∈ ys, isDigit c = false) (hus : ∃ c ∈ us.head?, isDigit c)
    (hvs : ∃ c ∈ vs.head?, isDigit c) (h : xs ++ us = ys ++ vs) : xs = ys ∧ us = vs := by
  have hStops : ∀ {cs : List Char},
      (∃ c ∈ cs.head?, isDigit c) → Stops (fun c => !isDigit c) cs := by
    rintro cs ⟨c, hc, hDigit⟩ d hd
    simp [Option.mem_unique hd hc, hDigit]
  exact append_inj_of_stops (p := fun c => !isDigit c) (fun c hc => by simp [hxs c hc])
    (fun c hc => by simp [hys c hc]) (hStops hus) (hStops hvs) h

theorem sign_and_digits_inj {a b : Bool} {us vs : List Char} (hus : ∃ c ∈ us.head?, isDigit c)
    (hvs : ∃ c ∈ vs.head?, isDigit c) (h : signText a ++ us = signText b ++ vs) :
    a = b ∧ us = vs := by
  have hSign (negative : Bool) : ∀ c ∈ signText negative, isDigit c = false := by
    cases negative with
    | false => exact List.forall_mem_nil _
    | true => exact List.forall_mem_singleton.mpr rfl
  obtain ⟨hSame, hRest⟩ := before_digits_inj (hSign a) (hSign b) hus hvs h
  refine ⟨?_, hRest⟩
  cases a <;> cases b <;> simp_all [signText]

theorem toList_toString_int (n : Int) :
    (toString n).toList = signText (decide (n < 0)) ++ Nat.toDigits 10 n.natAbs := by
  rw [Int.toString_eq_repr, Int.repr_eq_if]
  by_cases h : 0 ≤ n
  · rw [if_pos h, Nat.toList_repr, show n.toNat = n.natAbs by omega]
    simp [h, signText]
  · rw [if_neg h, String.toList_append, Nat.toList_repr, show (-n).toNat = n.natAbs by omega]
    simp [lt_of_not_ge h, signText]

theorem exists_getLast?_toString_int (n : Int) : ∃ c ∈ (toString n).toList.getLast?, isDigit c := by
  rw [toList_toString_int]
  exact exists_getLast?_digit _ (by simp) fun c hc => isDigit_of_mem_toDigits hc

theorem toString_int_injective {m n : Int} (h : toString m = toString n) : m = n := by
  have hDigits (k : Nat) : ∃ c ∈ (Nat.toDigits 10 k).head?, isDigit c := by
    simpa using exists_head?_digit [] (by simp) fun c hc => isDigit_of_mem_toDigits hc
  have hText := congrArg String.toList h
  rw [toList_toString_int, toList_toString_int] at hText
  obtain ⟨hSign, hSize⟩ := sign_and_digits_inj (hDigits _) (hDigits _) hText
  have hNatAbs := toDigits_injective hSize
  have hNegative : m < 0 ↔ n < 0 := by simpa using hSign
  omega

/-! ### Numbers of a width -/

theorem toList_padded (width n : Nat) :
    (padded width n).toList =
      List.replicate (width - (Nat.toDigits 10 n).length) '0' ++ Nat.toDigits 10 n :=
  String.toList_ofList

theorem isDigit_of_mem_padded {width n : Nat} {c : Char} (h : c ∈ (padded width n).toList) :
    isDigit c = true := by
  rw [toList_padded, List.mem_append] at h
  exact h.elim isDigit_of_mem_zeros isDigit_of_mem_toDigits

@[simp] theorem natOfDigits_padded (width n : Nat) : natOfDigits (padded width n).toList = n := by
  rw [toList_padded, natOfDigits_append, natOfDigits_zeros, natOfDigits_toDigits, Nat.zero_mul,
    Nat.zero_add]

theorem exists_head?_padded (width n : Nat) (rest : List Char) :
    ∃ c ∈ ((padded width n).toList ++ rest).head?, isDigit c := by
  have hNonempty : (padded width n).toList ≠ [] := by
    rw [toList_padded]
    simp
  obtain ⟨c, cs, hc⟩ := List.exists_cons_of_ne_nil hNonempty
  have hDigit : isDigit c = true := isDigit_of_mem_padded (hc ▸ List.mem_cons_self)
  exact ⟨c, by rw [hc]; rfl, hDigit⟩

theorem padded_injective {width m n : Nat} (h : (padded width m).toList = (padded width n).toList) :
    m = n := by
  rw [← natOfDigits_padded width m, h, natOfDigits_padded]

/-- A number that fits has the width it is given. -/
theorem length_padded {width n : Nat} (hWidth : 0 < width) (h : n < 10 ^ width) :
    (padded width n).toList.length = width := by
  have hLength : (Nat.toDigits 10 n).length ≤ width :=
    (Nat.length_toDigits_le_iff (by decide) hWidth).mpr h
  rw [toList_padded, List.length_append, List.length_replicate]
  omega

/-! ### Places after the point -/

/-- What digits after a point denote. -/
def fractionOfDigits (ds : List Char) : ℚ := natOfDigits ds / 10 ^ ds.length

theorem natOfDigits_scaled (whole fraction : List Char) :
    natOfDigits (whole ++ fraction) * (10 : ℚ) ^ (-fraction.length : Int) =
      natOfDigits whole + fractionOfDigits fraction := by
  have hTen : (10 : ℚ) ^ fraction.length ≠ 0 := pow_ne_zero _ (by norm_num)
  rw [natOfDigits_append, fractionOfDigits, zpow_neg, zpow_natCast]
  push_cast
  field_simp

theorem fractionOfDigits_append_zeros (ds : List Char) (n : Nat) :
    fractionOfDigits (ds ++ List.replicate n '0') = fractionOfDigits ds := by
  rw [fractionOfDigits, fractionOfDigits, natOfDigits_append, natOfDigits_zeros, Nat.add_zero,
    List.length_append, List.length_replicate, pow_add]
  push_cast
  field_simp

theorem fractionOfDigits_padded {width n : Nat} (hWidth : 0 < width) (h : n < 10 ^ width) :
    fractionOfDigits (padded width n).toList = n / 10 ^ width := by
  rw [fractionOfDigits, natOfDigits_padded, length_padded hWidth h]

/-- What is taken away are zeros. -/
theorem exists_zeros_of_trimZeros (s : String) :
    ∃ n, s.toList = (trimZeros s).toList ++ List.replicate n '0' := by
  let zeros := s.toList.reverse.takeWhile (· == '0')
  have hZeros : zeros = List.replicate zeros.length '0' :=
    List.eq_replicate_of_mem fun c hc => by simpa using List.mem_takeWhile_imp hc
  refine ⟨zeros.length, ?_⟩
  calc s.toList
      = (zeros ++ s.toList.reverse.dropWhile (· == '0')).reverse := by
        rw [List.takeWhile_append_dropWhile, List.reverse_reverse]
    _ = (trimZeros s).toList ++ zeros.reverse := by
        rw [List.reverse_append, trimZeros, String.toList_ofList]
    _ = (trimZeros s).toList ++ List.replicate zeros.length '0' := by
        rw [hZeros, List.reverse_replicate, List.length_replicate]

/-- No zero ends what is left. -/
theorem getLast?_trimZeros_ne (s : String) : (trimZeros s).toList.getLast? ≠ some '0' := by
  rw [trimZeros, String.toList_ofList, List.getLast?_reverse]
  intro h
  have hHead := List.head?_dropWhile_not (· == '0') s.toList.reverse
  simp [h] at hHead

theorem isDigit_of_mem_trimZeros {s : String} (hs : ∀ c ∈ s.toList, isDigit c) {c : Char}
    (h : c ∈ (trimZeros s).toList) : isDigit c = true := by
  obtain ⟨n, hn⟩ := exists_zeros_of_trimZeros s
  exact hs c (by rw [hn]; exact List.mem_append_left _ h)

theorem fractionOfDigits_trimZeros (s : String) :
    fractionOfDigits (trimZeros s).toList = fractionOfDigits s.toList := by
  obtain ⟨n, hn⟩ := exists_zeros_of_trimZeros s
  rw [hn, fractionOfDigits_append_zeros]

end BotScript
