import BotScript.Text.LowerCase
import Mathlib

/-! Lower case is final: a text in lower case is its own lower case.  No run of the table leads to a
character that a run moves on, which is decided from the bounds of the runs and not character by
character. -/

namespace BotScript

namespace CaseRun

variable {r other : CaseRun} {n : Nat}

/-- Whether all images under a run are characters. -/
def reachesChars (r : CaseRun) : Bool :=
  decide (0 < r.first + r.shift ∧ r.last + r.shift < 0xD800) ||
    decide (0xDFFF < r.first + r.shift ∧ r.last + r.shift < 0x110000)

/-- Whether no image under a run lies in another run: outside its bounds, or between its members if
both go by twos. -/
def avoids (r other : CaseRun) : Bool :=
  (r.apply r.last).blt other.first || other.last.blt (r.apply r.first) ||
    ((r.stride.beq 2 || r.first.beq r.last) && other.stride.beq 2 &&
      ((r.apply r.first + other.first) % 2).beq 1)

theorem contains_iff :
    r.contains n = true ↔ r.first ≤ n ∧ n ≤ r.last ∧ (n - r.first) % r.stride = 0 := by
  simp [contains, and_assoc]

theorem apply_eq (hReaches : r.reachesChars = true) (hLow : r.first ≤ n) :
    (r.apply n : Int) = n + r.shift := by
  simp only [reachesChars, Bool.or_eq_true, decide_eq_true_eq] at hReaches
  rw [apply, Int.toNat_of_nonneg (by omega)]

theorem isValidChar_apply (hReaches : r.reachesChars = true) (hn : r.contains n = true) :
    (r.apply n).isValidChar := by
  obtain ⟨hLow, hHigh, -⟩ := contains_iff.mp hn
  have hImage := apply_eq hReaches hLow
  simp only [reachesChars, Bool.or_eq_true, decide_eq_true_eq] at hReaches
  unfold Nat.isValidChar
  omega

theorem not_contains_apply (hReaches : r.reachesChars = true) (hAvoids : r.avoids other = true)
    (hn : r.contains n = true) : ¬other.contains (r.apply n) = true := by
  intro hOther
  obtain ⟨hLow, hHigh, hStride⟩ := contains_iff.mp hn
  have hImage := apply_eq hReaches hLow
  have hFirst := apply_eq hReaches (le_refl r.first)
  have hLast := apply_eq hReaches (hLow.trans hHigh)
  obtain ⟨hLow', hHigh', hStride'⟩ := contains_iff.mp hOther
  simp only [avoids, Bool.or_eq_true, Bool.and_eq_true, Nat.blt_eq, Nat.beq_eq] at hAvoids
  rcases hAvoids with (hBelow | hAbove) | ⟨⟨hTwos | hSingle, hTwos'⟩, hParity⟩
  · omega
  · omega
  · rw [hTwos] at hStride
    rw [hTwos'] at hStride'
    omega
  · rw [hTwos'] at hStride'
    omega

end CaseRun

namespace LowerCase

/-- The capital I with a dot, which has no run, as one. -/
def dottedI : CaseRun := ⟨0x130, 0x130, 1, 0⟩

theorem runs_settle :
    (runs.all fun r => r.reachesChars && (dottedI :: runs).all r.avoids) = true := by
  decide +kernel

/-- What a run leads to is a character that stays. -/
theorem apply_settled {r : CaseRun} {n : Nat} (hr : r ∈ runs) (hn : r.contains n = true) :
    (r.apply n).isValidChar ∧ r.apply n ≠ 0x130 ∧
      ∀ other ∈ runs, ¬other.contains (r.apply n) = true := by
  have hSettle := List.all_eq_true.mp runs_settle r hr
  rw [Bool.and_eq_true, List.all_eq_true] at hSettle
  obtain ⟨hReaches, hAvoids⟩ := hSettle
  have hStays : ∀ other ∈ dottedI :: runs, ¬other.contains (r.apply n) = true :=
    fun other hOther => CaseRun.not_contains_apply hReaches (hAvoids other hOther) hn
  refine ⟨CaseRun.isValidChar_apply hReaches hn, fun hDotted => ?_,
    fun other hOther => hStays other (List.mem_cons_of_mem _ hOther)⟩
  exact hStays dottedI List.mem_cons_self (by rw [hDotted]; rfl)

theorem map?_eq_none_iff {n : Nat} :
    CaseRun.map? runs n = none ↔ ∀ r ∈ runs, ¬r.contains n = true := by
  simp [CaseRun.map?]

/-- A character that lower case leaves as it is, wherever it stands. -/
structure Settled (c : Char) : Prop where
  alone : ofChar c = [c]
  notSigma : c ≠ 'Σ'

theorem settled_ascii {c : Char} (hLow : c.toNat < 128) (hLower : c.toLower = c) : Settled c := by
  refine ⟨by simp [ofChar, hLow, hLower], ?_⟩
  rintro rfl
  exact absurd hLow (by decide)

theorem settled_above {c : Char} (hHigh : 128 ≤ c.toNat) (hDotted : c ≠ 'İ')
    (hMap : CaseRun.map? runs c.toNat = none) : Settled c := by
  refine ⟨by simp [ofChar, Nat.not_lt.mpr hHigh, hDotted, hMap], ?_⟩
  rintro rfl
  exact absurd hMap (by decide +kernel)

/-- The letters of ASCII are one run. -/
theorem toLower_eq_self {c : Char} (hMap : CaseRun.map? runs c.toNat = none) : c.toLower = c := by
  refine Char.toLower_eq_of_not_isUpper fun hUpper => ?_
  obtain ⟨hLow, hHigh⟩ : 0x41 ≤ c.toNat ∧ c.toNat ≤ 0x5A := of_decide_eq_true hUpper
  refine map?_eq_none_iff.mp hMap ⟨0x41, 0x5A, 1, 0x20⟩ List.mem_cons_self ?_
  exact CaseRun.contains_iff.mpr ⟨hLow, hHigh, Nat.mod_one _⟩

theorem settled_of_map_none {c : Char} (hDotted : c ≠ 'İ')
    (hMap : CaseRun.map? runs c.toNat = none) : Settled c := by
  by_cases hLow : c.toNat < 128
  · exact settled_ascii hLow (toLower_eq_self hMap)
  · exact settled_above (by omega) hDotted hMap

theorem settled_image {n m : Nat} (h : CaseRun.map? runs n = some m) : Settled (Char.ofNat m) := by
  obtain ⟨r, hFind, rfl⟩ := Option.map_eq_some_iff.mp h
  have hContains := List.find?_some hFind
  obtain ⟨hValid, hDotted, hStays⟩ := apply_settled (List.mem_of_find?_eq_some hFind) hContains
  have hToNat : (Char.ofNat (r.apply n)).toNat = r.apply n := by
    rw [Char.toNat_ofNat, if_pos hValid]
  refine settled_of_map_none (fun hEq => hDotted ?_) ?_
  · rw [← hToNat, hEq]
    rfl
  · rw [hToNat]
    exact map?_eq_none_iff.mpr hStays

theorem toNat_toLower_lt {c : Char} (hLow : c.toNat < 128) : c.toLower.toNat < 128 := by
  by_cases hUpper : c.isUpper = true
  · obtain ⟨-, hHigh⟩ : 0x41 ≤ c.toNat ∧ c.toNat ≤ 0x5A := of_decide_eq_true hUpper
    rw [Char.toLower_eq_of_isUpper hUpper, Char.toNat_ofNat]
    split <;> omega
  · rwa [Char.toLower_eq_of_not_isUpper hUpper]

theorem settled_of_mem_ofChar {c d : Char} (hd : d ∈ ofChar c) : Settled d := by
  unfold ofChar at hd
  split at hd
  · rename_i hLow
    obtain rfl := List.mem_singleton.mp hd
    exact settled_ascii (toNat_toLower_lt hLow) (Char.toLower_toLower_eq_toLower c)
  · split at hd
    · simp only [List.mem_cons, List.not_mem_nil, or_false] at hd
      rcases hd with rfl | rfl
      · exact settled_ascii (by decide) (by decide)
      · exact settled_of_map_none (by decide) (by decide +kernel)
    · rename_i hHigh hDotted
      obtain rfl := List.mem_singleton.mp hd
      cases hMap : CaseRun.map? runs c.toNat with
      | none => exact settled_of_map_none hDotted hMap
      | some m => exact settled_image hMap

theorem settled_of_mem {before cs : List Char} {d : Char} (hd : d ∈ ofCharsAfter before cs) :
    Settled d := by
  induction cs generalizing before with
  | nil => exact absurd hd List.not_mem_nil
  | cons c rest ih =>
    rw [ofCharsAfter, List.mem_append] at hd
    rcases hd with hFirst | hRest
    · by_cases hSigma : c = 'Σ'
      · rw [if_pos hSigma, List.mem_singleton] at hFirst
        subst hFirst
        split
        · exact settled_of_map_none (by decide) (by decide +kernel)
        · exact settled_of_map_none (by decide) (by decide +kernel)
      · rw [if_neg hSigma] at hFirst
        exact settled_of_mem_ofChar hFirst
    · exact ih hRest

theorem ofCharsAfter_of_settled {before cs : List Char} (h : ∀ c ∈ cs, Settled c) :
    ofCharsAfter before cs = cs := by
  induction cs generalizing before with
  | nil => rfl
  | cons c rest ih =>
    obtain ⟨hFirst, hRest⟩ := List.forall_mem_cons.mp h
    rw [ofCharsAfter, if_neg hFirst.notSigma, hFirst.alone, ih hRest]
    rfl

end LowerCase

theorem lowerCase_lowerCase (s : String) : lowerCase (lowerCase s) = lowerCase s := by
  simp only [lowerCase, String.toList_ofList]
  rw [LowerCase.ofCharsAfter_of_settled fun c hc => LowerCase.settled_of_mem hc]

end BotScript
