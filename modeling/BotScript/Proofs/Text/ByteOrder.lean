import BotScript.Text.Encoding
import Mathlib.Data.String.Basic
import Mathlib.Tactic.SplitIfs

/-! The order of texts.  Texts are compared character by character, by code points, and this is also
the order of their bytes: of two characters the one with the smaller code point has the smaller
bytes, at the first place where they differ. -/

namespace BotScript

/-- The bytes of the character with a code point. -/
def encoded (v : Nat) : List Nat :=
  if v ≤ 127 then [v]
  else if v ≤ 2047 then [v / 64 + 192, v % 64 + 128]
  else if v ≤ 65535 then [v / 4096 + 224, v / 64 % 64 + 128, v % 64 + 128]
  else [v / 262144 + 240, v / 4096 % 64 + 128, v / 64 % 64 + 128, v % 64 + 128]

theorem toNat_le_of_valid (c : Char) : c.toNat ≤ 0x10FFFF := by
  rcases c.valid with h | ⟨-, h⟩
  · exact Nat.le_of_lt (Nat.lt_trans h (by decide))
  · exact Nat.le_of_lt_succ h

theorem utf8EncodeChar_eq (c : Char) :
    (String.utf8EncodeChar c).map UInt8.toNat = encoded c.toNat := by
  have hMax : c.val.toNat ≤ 0x10FFFF := toNat_le_of_valid c
  show _ = encoded c.val.toNat
  simp only [String.utf8EncodeChar, encoded]
  generalize c.val.toNat = v at hMax ⊢
  split_ifs <;> simp <;> omega

theorem textBytes_cons (c : Char) (cs : List Char) :
    textBytes (c :: cs) = encoded c.toNat ++ textBytes cs := by
  rw [textBytes, List.flatMap_cons, utf8EncodeChar_eq]
  rfl

/-- The bytes of different characters differ at some place, whatever follows. -/
theorem encoded_append_lt {v w : Nat} (h : v < w) (xs ys : List Nat) :
    encoded v ++ xs < encoded w ++ ys := by
  rw [encoded, encoded]
  split_ifs <;> simp only [List.cons_append, List.cons_lt_cons_iff] <;> omega

theorem encoded_ne_nil (v : Nat) : encoded v ≠ [] := by
  rw [encoded]
  split_ifs <;> exact List.cons_ne_nil _ _

theorem append_lt_append_iff (zs xs ys : List Nat) : zs ++ xs < zs ++ ys ↔ xs < ys := by
  induction zs with
  | nil => rfl
  | cons z zs ih => simp [ih]

/-- The order of the bytes of characters is the order of the characters. -/
theorem textBytes_lt_iff (cs ds : List Char) : textBytes cs < textBytes ds ↔ cs < ds := by
  induction cs generalizing ds with
  | nil =>
    cases ds with
    | nil => simp [textBytes]
    | cons d ds =>
      obtain ⟨b, bs, hBytes⟩ := List.exists_cons_of_ne_nil (encoded_ne_nil d.toNat)
      rw [textBytes_cons, hBytes]
      exact iff_of_true (List.nil_lt_cons _ _) (List.nil_lt_cons _ _)
  | cons c cs ih =>
    cases ds with
    | nil => simp [textBytes]
    | cons d ds =>
      rw [textBytes_cons, textBytes_cons, List.cons_lt_cons_iff]
      rcases Nat.lt_trichotomy c.toNat d.toNat with hLt | hEq | hGt
      · exact iff_of_true (encoded_append_lt hLt _ _) (.inl hLt)
      · obtain rfl : c = d := Char.toNat_inj.mp hEq
        rw [append_lt_append_iff, ih]
        simp
      · have hNot : ¬(c < d ∨ c = d ∧ cs < ds) := by
          rintro (hLt | ⟨rfl, -⟩)
          · exact Nat.lt_asymm hGt hLt
          · exact Nat.lt_irrefl _ hGt
        exact iff_of_false (List.lt_asymm (encoded_append_lt hGt _ _)) hNot

/-- The order of the bytes of two texts is the order of the texts. -/
theorem textBytes_le_iff (s t : String) :
    textBytes s.toList ≤ textBytes t.toList ↔ s ≤ t := by
  have hLt := textBytes_lt_iff t.toList s.toList
  rw [← not_lt, hLt, ← String.lt_iff_toList_lt, not_lt]

end BotScript
