import BotScript.Binary64.Rounding
import Mathlib.Algebra.Group.Nat.Defs
import Mathlib.Order.Monotone.Basic
import Mathlib.Tactic.Ring

/-! The order of numbers by size.  Numbers are compared by their places, which are read off their
bits; `place_le_place_iff` says that this orders them by what they stand for, in units of the least
positive number. -/

namespace BotScript

namespace Binary64

theorem isFinite_iff {x : Binary64} :
    x.isFinite = true ↔ x.isNaN = false ∧ x.isInfinite = false := by
  simp only [isFinite, isNaN, isInfinite, decide_eq_true_eq, decide_eq_false_iff_not]
  omega

/-- The number with a given exponent and fraction. -/
theorem unitsOfMagnitude_eq (exponent : Nat) {fraction : Nat} (h : fraction < exponentWeight) :
    unitsOfMagnitude (exponent * exponentWeight + fraction) =
      if exponent = 0 then fraction else (exponentWeight + fraction) * 2 ^ (exponent - 1) := by
  have hDiv : (exponent * exponentWeight + fraction) / exponentWeight = exponent := by
    rw [Nat.mul_comm, Nat.mul_add_div (by decide), Nat.div_eq_of_lt h, Nat.add_zero]
  have hMod : (exponent * exponentWeight + fraction) % exponentWeight = fraction := by
    rw [Nat.mul_comm, Nat.mul_add_mod, Nat.mod_eq_of_lt h]
  simp only [unitsOfMagnitude, hDiv, hMod, Nat.shiftLeft_eq]

/-- From one magnitude to the next, a number grows by the weight of its last bit: within an exponent
the fraction grows by 1, and the least number of the next exponent follows the greatest of this. -/
theorem unitsOfMagnitude_succ (m : Nat) :
    unitsOfMagnitude (m + 1) = unitsOfMagnitude m + 2 ^ (m / exponentWeight - 1) := by
  obtain ⟨e, f, hf, rfl⟩ : ∃ e f, f < exponentWeight ∧ m = e * exponentWeight + f :=
    ⟨m / exponentWeight, m % exponentWeight, Nat.mod_lt _ (by decide),
      (Nat.div_add_mod' m exponentWeight).symm⟩
  have hDiv : (e * exponentWeight + f) / exponentWeight = e := by
    rw [Nat.mul_comm, Nat.mul_add_div (by decide), Nat.div_eq_of_lt hf, Nat.add_zero]
  rw [unitsOfMagnitude_eq e hf, hDiv]
  by_cases hNext : f + 1 < exponentWeight
  · rw [Nat.add_assoc, unitsOfMagnitude_eq e hNext]
    split
    · subst e
      rfl
    · rw [← Nat.add_assoc, Nat.add_mul _ 1, Nat.one_mul]
  · have hCarry : e * exponentWeight + f + 1 = (e + 1) * exponentWeight + 0 := by
      rw [Nat.add_mul]
      omega
    have hLast : exponentWeight = f + 1 := by omega
    rw [hCarry, unitsOfMagnitude_eq (e + 1) (by decide), if_neg (Nat.succ_ne_zero e)]
    cases e with
    | zero => simpa using hLast
    | succ e =>
      rw [if_neg (Nat.succ_ne_zero e), Nat.add_zero, Nat.add_sub_cancel, Nat.add_sub_cancel, hLast]
      ring

theorem unitsOfMagnitude_lt_succ (m : Nat) : unitsOfMagnitude m < unitsOfMagnitude (m + 1) := by
  rw [unitsOfMagnitude_succ]
  exact Nat.lt_add_of_pos_right (Nat.two_pow_pos _)

theorem unitsOfMagnitude_strictMono : StrictMono unitsOfMagnitude :=
  strictMono_nat_of_lt_succ unitsOfMagnitude_lt_succ

/-- Numbers are in order of size if their places are. -/
theorem place_le_place_iff (x y : Binary64) :
    x.place ≤ y.place ↔ x.signedUnits ≤ y.signedUnits := by
  have hZero : unitsOfMagnitude 0 = 0 := by decide
  have hMono : ∀ m n, unitsOfMagnitude m ≤ unitsOfMagnitude n ↔ m ≤ n :=
    fun _ _ => unitsOfMagnitude_strictMono.le_iff_le
  have hEq : ∀ m, unitsOfMagnitude m ≤ 0 ↔ m ≤ 0 := fun m => hZero ▸ hMono m 0
  have hxy := hMono x.magnitude y.magnitude
  have hyx := hMono y.magnitude x.magnitude
  have hx := hEq x.magnitude
  have hy := hEq y.magnitude
  rw [place, place, signedUnits, signedUnits, units, units]
  split <;> split <;> omega

end Binary64

end BotScript
