import Mathlib.Data.List.Basic

/-! Stable sorting.  A list that is sorted by `mergeSort` is in order, and where two elements come
in either order they are in the order that they had before.  The order has to be one on the elements
of the list alone. -/

namespace BotScript.Sorting

variable {α : Type} {le : α → α → Bool} {R : α → α → Prop} {l : List α}

/-- What holds of all elements of a list and later ones holds of those at two indices. -/
theorem pairwise_at {i j : Nat} {a b : α} (h : l.Pairwise R) (hLt : i < j) (ha : l[i]? = some a)
    (hb : l[j]? = some b) : R a b := by
  obtain ⟨hi, rfl⟩ := List.getElem?_eq_some_iff.mp ha
  obtain ⟨hj, rfl⟩ := List.getElem?_eq_some_iff.mp hb
  exact List.pairwise_iff_getElem.mp h i j hi hj hLt

theorem pairwise_mergeSort_of_order
    (hTrans : ∀ a b c, le a b = true → le b c = true → le a c = true)
    (hTotal : ∀ a b, (le a b || le b a) = true) (h : l.Pairwise R) :
    (l.mergeSort le).Pairwise fun a b => le a b = true ∧ (le b a = true → R a b) := by
  rw [← List.mergeSort_zipIdx, List.pairwise_map]
  have hPerm := List.mergeSort_perm l.zipIdx (List.zipIdxLE le)
  have hSorted := List.pairwise_mergeSort (List.zipIdxLE_trans hTrans) (List.zipIdxLE_total hTotal)
    l.zipIdx
  have hIndices : (l.zipIdx.mergeSort (List.zipIdxLE le)).Pairwise fun a b => a.2 ≠ b.2 := by
    rw [← List.pairwise_map (f := Prod.snd) (R := (· ≠ ·))]
    show List.Nodup _
    rw [(hPerm.map Prod.snd).nodup_iff, List.zipIdx_map_snd]
    exact List.nodup_range'
  refine (hSorted.and hIndices).imp_of_mem fun {a b} ha hb hBoth => ?_
  obtain ⟨hLE, hNe⟩ := hBoth
  rw [hPerm.mem_iff, List.mem_zipIdx_iff_getElem?] at ha hb
  by_cases hForth : le a.1 b.1 = true
  · refine ⟨hForth, fun hBack => ?_⟩
    simp only [List.zipIdxLE, hForth, hBack, if_true, decide_eq_true_eq] at hLE
    exact pairwise_at h (Nat.lt_of_le_of_ne hLE hNe) ha hb
  · simp [List.zipIdxLE, hForth] at hLE

/-- Sorting puts a list in order, and keeps the order of elements that come in either order. -/
theorem pairwise_mergeSort_of_mem
    (hTrans : ∀ a ∈ l, ∀ b ∈ l, ∀ c ∈ l, le a b = true → le b c = true → le a c = true)
    (hTotal : ∀ a ∈ l, ∀ b ∈ l, le a b = true ∨ le b a = true) (h : l.Pairwise R) :
    (l.mergeSort le).Pairwise fun a b => le a b = true ∧ (le b a = true → R a b) := by
  -- The laws hold of all elements if the elements are taken with their membership.
  let le' : { a // a ∈ l } → { a // a ∈ l } → Bool := fun a b => le a.1 b.1
  have hMap : (l.attach.mergeSort le').map Subtype.val = l.mergeSort le := by
    rw [List.map_mergeSort (s := le) fun a _ b _ => rfl, List.attach_map_subtype_val]
  have hAttach : l.attach.Pairwise fun a b => R a.1 b.1 := by
    rw [← List.pairwise_map (f := Subtype.val), List.attach_map_subtype_val]
    exact h
  rw [← hMap, List.pairwise_map]
  exact pairwise_mergeSort_of_order
    (fun a b c => hTrans a.1 a.2 b.1 b.2 c.1 c.2)
    (fun a b => by simpa [le'] using hTotal a.1 a.2 b.1 b.2) hAttach

end BotScript.Sorting
