import BotScript.Proofs.Equality.Parts
import BotScript.Proofs.Safety

/-! Which values are equal to themselves.  Equality is deep, and a NaN equals nothing, so that a
value that holds a NaN anywhere is no copy of itself: `equals_self_iff`. -/

namespace BotScript

open Safety

namespace Value

/-- No number in the value is a NaN, at whatever depth. -/
def NaNFree (v : Value) : Prop :=
  ∀ level x, Place .all v level (.float x) → x.isNaN = false

theorem nanFree_of_equals_self {v : Value} (h : v.equals v = true) : v.NaNFree := by
  intro level x hPlace
  generalize hNumber : Value.float x = number at hPlace
  -- What is around the number equals itself too, layer by layer.
  induction hPlace with
  | here v =>
    subst hNumber
    cases equals_iff.mp h with
    | float hSelf =>
      rw [Binary64.equals_self, Bool.not_eq_true'] at hSelf
      exact hSelf
  | inRef _ ih =>
    cases equals_iff.mp h with
    | wrapper hInside => exact ih hInside hNumber
  | inList _ hMem _ ih =>
    cases equals_iff.mp h with
    | list hItems => exact ih (List.forall₂_same.mp hItems _ hMem) hNumber
  | inDict _ hMem _ ih =>
    cases equals_iff.mp h with
    | dict hEntries => exact ih (List.forall₂_same.mp hEntries _ hMem).2 hNumber
  | inTextDict _ hMem _ ih =>
    cases equals_iff.mp h with
    | textDict hEntries => exact ih (List.forall₂_same.mp hEntries _ hMem).2 hNumber

/-- Nothing equals a value with a NaN in it. -/
theorem nanFree_of_equals {v w : Value} (h : v.equals w = true) : w.NaNFree :=
  nanFree_of_equals_self (equals_trans (equals_symm h) h)

theorem NaNFree.inside {v : Value} (h : (ref (some v)).NaNFree) : v.NaNFree :=
  fun level x hPlace => h level x (.inRef hPlace)

theorem NaNFree.item {vs : List Value} (h : (list vs).NaNFree) : ∀ v ∈ vs, v.NaNFree :=
  fun _ hMem level x hPlace => h level x (.inList rfl hMem hPlace)

theorem NaNFree.entry {es : Dict} (h : (dict es).NaNFree) : ∀ e ∈ es, e.2.NaNFree :=
  fun _ hMem level x hPlace => h (level + 1) x (.inDict rfl hMem hPlace)

theorem NaNFree.named {es : TextDict} (h : (textDict es).NaNFree) : ∀ e ∈ es, e.2.NaNFree :=
  fun _ hMem level x hPlace => h (level + 1) x (.inTextDict rfl hMem hPlace)

theorem equals_self {v : Value} (h : v.NaNFree) : v.equals v = true := by
  induction v using byParts with
  | simple v hSimple =>
    cases v with
    | float x => rw [equals, Binary64.equals_self, h 0 x (.here _), Bool.not_false]
    | list | dict | textDict | ref => simp [kind] at hSimple
    | _ => simp [equals]
  | list vs ih =>
    exact equals_iff.mpr (.list (List.forall₂_same.mpr fun v hv => ih v hv (h.item v hv)))
  | dict d ih =>
    exact equals_iff.mpr
      (.dict (List.forall₂_same.mpr fun e he => ⟨rfl, ih e he (h.entry e he)⟩))
  | textDict d ih =>
    exact equals_iff.mpr
      (.textDict (List.forall₂_same.mpr fun e he => ⟨rfl, ih e he (h.named e he)⟩))
  | empty => exact equals_iff.mpr .empty
  | wrapper v ih => exact equals_iff.mpr (.wrapper (ih h.inside))

/-- A value equals itself if and only if there is no NaN in it. -/
theorem equals_self_iff (v : Value) : v.equals v = true ↔ v.NaNFree :=
  ⟨nanFree_of_equals_self, equals_self⟩

end Value

end BotScript
