import BotScript.Text.Integer
import Mathlib.Data.List.Forall2
import Mathlib.Data.Nat.Digits.Defs
import Mathlib.Tactic.IntervalCases

/-! Which texts are integers.  `readInteger` takes a sign or none and then one or more digits of the
radix, with any number of zeros in front, and gives the number just if it is in the range. -/

namespace BotScript

variable {radix limit : Nat} {overflow : IntegerFault} {cs : List Char}

/-- A character is the digit `d` of a radix up to sixteen, in either case. -/
def IsDigit (radix : Nat) (c : Char) (d : Nat) : Prop :=
  d < radix ∧ (c = d.digitChar ∨ c = d.digitChar.toUpper)

instance (radix : Nat) (c : Char) (d : Nat) : Decidable (IsDigit radix c d) :=
  inferInstanceAs (Decidable (_ ∧ _))

/-- Characters are digits of a radix, and denote a number. -/
def Denotes (radix : Nat) (cs : List Char) (n : Nat) : Prop :=
  ∃ ds, List.Forall₂ (IsDigit radix) cs ds ∧ Nat.ofDigits radix ds.reverse = n

/-- An integer as it is written: digits after a sign or none. -/
inductive IsInteger (radix : Nat) : List Char → Int → Prop
  | plain {cs n} : cs ≠ [] → Denotes radix cs n → IsInteger radix cs n
  | plus {cs n} : cs ≠ [] → Denotes radix cs n → IsInteger radix ('+' :: cs) n
  | minus {cs n} : cs ≠ [] → Denotes radix cs n → IsInteger radix ('-' :: cs) (-n)

/-! ### Digits -/

theorem digitOf?_of_lt {radix' : Nat} {c : Char} {d : Nat} (hDigit : digitOf? radix c = some d)
    (hLess : d < radix') : digitOf? radix' c = some d := by
  rw [digitOf?, Option.filter_eq_some_iff] at hDigit ⊢
  exact ⟨hDigit.1, decide_eq_true hLess⟩

theorem digitOf?_eq_some_iff (hRadix : radix ≤ 16) {c : Char} {d : Nat} :
    digitOf? radix c = some d ↔ IsDigit radix c d := by
  constructor
  · intro hDigit
    rw [digitOf?, Option.filter_eq_some_iff, decide_eq_true_eq] at hDigit
    obtain ⟨hValue, hLess⟩ := hDigit
    refine ⟨hLess, ?_⟩
    -- Each of the three ranges has few characters whose value is below the radix.
    rw [← Char.ofNat_toNat c]
    simp only [Char.le_def, UInt32.le_iff_toNat_le, Char.toNat_val] at hValue
    generalize c.toNat = n at hValue
    split at hValue
    · obtain rfl := Option.some.inj hValue
      obtain ⟨hLow, hHigh⟩ : 48 ≤ n ∧ n ≤ 57 := ‹_›
      interval_cases n <;> decide
    split at hValue
    · obtain rfl := Option.some.inj hValue
      obtain ⟨hLow, -⟩ : 97 ≤ n ∧ n ≤ 122 := ‹_›
      have hHigh : n ≤ 102 := by
        change n - 97 + 10 < radix at hLess
        omega
      interval_cases n <;> decide
    split at hValue
    · obtain rfl := Option.some.inj hValue
      obtain ⟨hLow, -⟩ : 65 ≤ n ∧ n ≤ 90 := ‹_›
      have hHigh : n ≤ 70 := by
        change n - 65 + 10 < radix at hLess
        omega
      interval_cases n <;> decide
    · exact nomatch hValue
  · rintro ⟨hLess, hChar⟩
    have hSixteen : d < 16 := hLess.trans_le hRadix
    have hValue : digitOf? 16 c = some d := by
      rcases hChar with rfl | rfl
      · interval_cases d <;> decide
      · interval_cases d <;> decide
    exact digitOf?_of_lt hValue hLess

theorem digitOf?_eq_none {c : Char} (h : c = '+' ∨ c = '-' ∨ c = '#') :
    digitOf? radix c = none := by
  rcases h with rfl | rfl | rfl <;> rfl

/-- What starts with a digit starts neither with a sign nor with a `#`. -/
theorem Denotes.head_ne (hRadix : radix ≤ 16) {c : Char} {n : Nat} (h : Denotes radix (c :: cs) n) :
    c ≠ '+' ∧ c ≠ '-' ∧ c ≠ '#' := by
  obtain ⟨_, hds, -⟩ := h
  obtain ⟨d, ds, hFirst, -, -⟩ := List.forall₂_cons_left_iff.mp hds
  rw [← digitOf?_eq_some_iff hRadix] at hFirst
  have hSome : digitOf? radix c ≠ none := by simp [hFirst]
  exact ⟨fun h => hSome (digitOf?_eq_none (.inl h)),
    fun h => hSome (digitOf?_eq_none (.inr (.inl h))),
    fun h => hSome (digitOf?_eq_none (.inr (.inr h)))⟩

/-! ### Reading digits -/

/-- The number so far is at most the whole number. -/
theorem le_foldl_digits (hPositive : 0 < radix) (n : Nat) (ds : List Nat) :
    n ≤ ds.foldl (fun n d => radix * n + d) n := by
  induction ds generalizing n with
  | nil => exact Nat.le_refl n
  | cons d ds ih =>
    calc n ≤ radix * n := Nat.le_mul_of_pos_left n hPositive
      _ ≤ radix * n + d := Nat.le_add_right _ _
      _ ≤ _ := ih _

/-- The limit is checked at every digit, but passing it once is passing it in the end. -/
theorem readDigits_eq_ok_iff (hPositive : 0 < radix) {n m : Nat} :
    readDigits radix limit overflow n cs = .ok m ↔
      ∃ ds, List.Forall₂ (fun c d => digitOf? radix c = some d) cs ds ∧
        ds.foldl (fun n d => radix * n + d) n = m ∧ (cs ≠ [] → m ≤ limit) := by
  induction cs generalizing n with
  | nil => simp [readDigits]
  | cons c cs ih =>
    rw [readDigits]
    cases hDigit : digitOf? radix c with
    | none => simp [List.forall₂_cons_left_iff, hDigit]
    | some d =>
      simp only [List.forall₂_cons_left_iff, hDigit]
      split
      · rename_i hOver
        constructor
        · exact nofun
        · rintro ⟨_, ⟨d', ds, hFirst, -, rfl⟩, rfl, hLimit⟩
          obtain rfl := Option.some.inj hFirst
          have hGrows := le_foldl_digits hPositive (radix * n + d) ds
          have hWithin := hLimit (List.cons_ne_nil c cs)
          rw [List.foldl_cons] at hWithin
          omega
      · rename_i hWithin
        rw [ih]
        constructor
        · rintro ⟨ds, hds, rfl, hLimit⟩
          refine ⟨_, ⟨d, ds, rfl, hds, rfl⟩, rfl, fun _ => ?_⟩
          cases hds with
          | nil => exact Nat.not_lt.mp hWithin
          | cons => exact hLimit (List.cons_ne_nil _ _)
        · rintro ⟨_, ⟨d', ds, hFirst, hds, rfl⟩, rfl, hLimit⟩
          obtain rfl := Option.some.inj hFirst
          exact ⟨ds, hds, rfl, fun _ => hLimit (List.cons_ne_nil c cs)⟩

theorem foldl_digits_eq (ds : List Nat) :
    ds.foldl (fun n d => radix * n + d) 0 = Nat.ofDigits radix ds.reverse := by
  rw [Nat.ofDigits_eq_foldr, List.foldr_reverse]
  simp only [Nat.cast_id, Nat.add_comm]

theorem readDigits_zero_eq_ok_iff (hPositive : 0 < radix) (hRadix : radix ≤ 16) (hcs : cs ≠ [])
    {m : Nat} :
    readDigits radix limit overflow 0 cs = .ok m ↔ Denotes radix cs m ∧ m ≤ limit := by
  rw [readDigits_eq_ok_iff hPositive]
  simp only [foldl_digits_eq, digitOf?_eq_some_iff hRadix, Denotes]
  constructor
  · rintro ⟨ds, hds, hValue, hLimit⟩
    exact ⟨⟨ds, hds, hValue⟩, hLimit hcs⟩
  · rintro ⟨⟨ds, hds, hValue⟩, hLimit⟩
    exact ⟨ds, hds, hValue, fun _ => hLimit⟩

/-! ### Signs -/

theorem map_eq_ok_iff {ε α β : Type} {f : α → β} {x : Except ε α} {b : β} :
    x.map f = .ok b ↔ ∃ a, x = .ok a ∧ f a = b := by
  cases x <;> simp [Except.map]

/-- A text is read as an integer just if it is one and lies between the limits. -/
theorem readInteger_eq_ok_iff (hPositive : 0 < radix) (hRadix : radix ≤ 16) {s : String} {z : Int} :
    readInteger radix limit s = .ok z ↔
      IsInteger radix s.toList z ∧ -(limit + 1 : Int) ≤ z ∧ z ≤ limit := by
  constructor
  · intro h
    rw [readInteger] at h
    split at h
    · exact nomatch h
    · exact nomatch h
    · exact nomatch h
    · rename_i cs hcs hText
      obtain ⟨n, hRead, rfl⟩ := map_eq_ok_iff.mp h
      obtain ⟨hDigits, hLimit⟩ := (readDigits_zero_eq_ok_iff hPositive hRadix hcs).mp hRead
      exact ⟨hText ▸ .minus hcs hDigits, by omega⟩
    · rename_i cs hcs hText
      obtain ⟨n, hRead, rfl⟩ := map_eq_ok_iff.mp h
      obtain ⟨hDigits, hLimit⟩ := (readDigits_zero_eq_ok_iff hPositive hRadix hcs).mp hRead
      exact ⟨hText ▸ .plus hcs hDigits, by simp only [Int.ofNat_eq_natCast]; omega⟩
    · rename_i hEmpty _ _ _ _
      obtain ⟨n, hRead, rfl⟩ := map_eq_ok_iff.mp h
      obtain ⟨hDigits, hLimit⟩ := (readDigits_zero_eq_ok_iff hPositive hRadix hEmpty).mp hRead
      exact ⟨.plain hEmpty hDigits, by simp only [Int.ofNat_eq_natCast]; omega⟩
  · rintro ⟨hInteger, hLow, hHigh⟩
    generalize hText : s.toList = text at hInteger
    rw [readInteger, hText]
    cases hInteger with
    | @plain _ n hcs hDigits =>
      obtain ⟨c, rest, rfl⟩ := List.exists_cons_of_ne_nil hcs
      obtain ⟨hPlus, hMinus, -⟩ := hDigits.head_ne hRadix
      have hRead : readDigits radix limit .tooLarge 0 (c :: rest) = .ok n :=
        (readDigits_zero_eq_ok_iff hPositive hRadix hcs).mpr ⟨hDigits, by omega⟩
      simp [hRead, hPlus, hMinus, Except.map]
    | @plus cs n hcs hDigits =>
      have hRead : readDigits radix limit .tooLarge 0 cs = .ok n :=
        (readDigits_zero_eq_ok_iff hPositive hRadix hcs).mpr ⟨hDigits, by omega⟩
      simp [hRead, Except.map]
    | @minus cs n hcs hDigits =>
      have hRead : readDigits radix (limit + 1) .tooSmall 0 cs = .ok n :=
        (readDigits_zero_eq_ok_iff hPositive hRadix hcs).mpr ⟨hDigits, by omega⟩
      simp [hRead, Except.map]

end BotScript
