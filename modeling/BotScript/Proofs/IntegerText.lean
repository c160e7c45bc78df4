import BotScript.Proofs.HexNumber

/-! Integers as texts.  A text is read as the integer that it is if it has 64 bits, and as zero
otherwise, and the decimal text of an integer is read back as it. -/

namespace BotScript

variable {radix : Nat} {cs : List Char} {s : String}

/-! ### Reading -/

/-- A text is read as the integer that it is, and as zero if it is none of 64 bits. -/
structure ReadsAs (radix : Nat) (s : String) (n : Int64) : Prop where
  integer : ∀ z, IsInteger radix s.toList z → -2 ^ 63 ≤ z → z < 2 ^ 63 → n.toInt = z
  other : (∀ z, IsInteger radix s.toList z → z < -2 ^ 63 ∨ 2 ^ 63 ≤ z) → n = 0

theorem readsAs_readInt64? (hPositive : 0 < radix) (hRadix : radix ≤ 16) (s : String) :
    ReadsAs radix s ((readInt64? radix s).getD 0) := by
  have hRead (z : Int) : readInteger radix 0x7FFFFFFFFFFFFFFF s = .ok z ↔ _ :=
    readInteger_eq_ok_iff hPositive hRadix
  constructor
  · intro z hInteger hLow hHigh
    rw [readInt64?, (hRead z).mpr ⟨hInteger, by omega, by omega⟩]
    exact Value.toInt_ofInt_of_bounds hLow hHigh
  · intro hOther
    rw [readInt64?]
    split
    · rename_i z hOk
      obtain ⟨hInteger, hLow, hHigh⟩ := (hRead z).mp hOk
      rcases hOther z hInteger with hBelow | hAbove <;> omega
    · rfl

/-! ### Writing -/

theorem Denotes.append_digit {c : Char} {n d : Nat} (hcs : Denotes radix cs n)
    (hc : IsDigit radix c d) : Denotes radix (cs ++ [c]) (radix * n + d) := by
  obtain ⟨ds, hDigits, rfl⟩ := hcs
  refine ⟨ds ++ [d], List.rel_append hDigits (.cons hc .nil), ?_⟩
  rw [List.reverse_concat, Nat.ofDigits_cons, Nat.add_comm]

theorem denotes_toDigits (n : Nat) : Denotes 10 (Nat.toDigits 10 n) n := by
  have hDigit {d : Nat} (h : d < 10) : IsDigit 10 d.digitChar d := ⟨h, .inl rfl⟩
  have hNothing : Denotes 10 [] 0 := ⟨[], .nil, rfl⟩
  induction n using Nat.strongRecOn with
  | ind n ih =>
    by_cases hOne : n < 10
    · rw [Nat.toDigits_of_lt_base hOne]
      simpa using hNothing.append_digit (hDigit hOne)
    · rw [Nat.toDigits_of_base_le (by decide) (Nat.le_of_not_lt hOne)]
      have hFront := ih (n / 10) (by omega)
      have hWhole := hFront.append_digit (hDigit (Nat.mod_lt n (by decide)))
      rwa [Nat.div_add_mod] at hWhole

/-- What is written for an integer is this integer. -/
theorem isInteger_toString (z : Int) : IsInteger 10 (toString z).toList z := by
  have hNonempty : Nat.toDigits 10 z.natAbs ≠ [] := by simp
  have hDigits := denotes_toDigits z.natAbs
  rw [toList_toString_int]
  by_cases hNegative : z < 0
  · have hMinus := IsInteger.minus hNonempty hDigits
    rw [show -(z.natAbs : Int) = z by omega] at hMinus
    simpa [hNegative, signText] using hMinus
  · have hPlain := IsInteger.plain hNonempty hDigits
    rw [show (z.natAbs : Int) = z by omega] at hPlain
    simpa [hNegative, signText] using hPlain

namespace Value

theorem toInt_text_toString {z : Int} (hLow : -2 ^ 63 ≤ z) (hHigh : z < 2 ^ 63) :
    (text (toString z)).toInt.toInt = z :=
  (readsAs_readInt64? (by decide) (by decide) _).integer z (isInteger_toString z) hLow hHigh

/-- An integer of 64 bits is read back from its text. -/
theorem toInt_text_toText (n : Int64) : (text (int n).toText).toInt = n :=
  Int64.toInt_inj.mp (toInt_text_toString n.le_toInt n.toInt_lt)

/-- The number of a message is read back from its text. -/
theorem toInt_text_of_number {id : Nat} (hHigh : id < 2 ^ 63) :
    (text (toString id)).toInt.toInt = id :=
  toInt_text_toString (z := id) (by omega) (by omega)

end Value

end BotScript
