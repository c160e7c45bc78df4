import BotScript.Value.Equality
import Mathlib.Data.List.Forall2

/-! Equality of values, by their parts.  `EqualParts` has one way for values of each kind to be
equal, in which the parts of lists, maps and wrappers are equal one by one; two values are equal if
and only if they are so in one of these ways. -/

namespace BotScript

namespace Value

/-- Two entries with the same key and equal values. -/
def EqualEntry {κ : Type} (a b : κ × Value) : Prop := a.1 = b.1 ∧ a.2.equals b.2 = true

/-- Two values with equal parts. -/
inductive EqualParts : Value → Value → Prop
  | null : EqualParts .null .null
  | bool (b : Bool) : EqualParts (.bool b) (.bool b)
  | int (n : Int64) : EqualParts (.int n) (.int n)
  | float {x y : Binary64} (h : x.equals y = true) : EqualParts (.float x) (.float y)
  | text (s : String) : EqualParts (.text s) (.text s)
  | duration (d : Duration) : EqualParts (.duration d) (.duration d)
  | instant (t : Instant) : EqualParts (.instant t) (.instant t)
  | list {vs ws : List Value} (h : List.Forall₂ (fun v w => v.equals w = true) vs ws) :
      EqualParts (.list vs) (.list ws)
  | dict {d e : Dict} (h : List.Forall₂ EqualEntry d e) : EqualParts (.dict d) (.dict e)
  | textDict {d e : TextDict} (h : List.Forall₂ EqualEntry d e) :
      EqualParts (.textDict d) (.textDict e)
  | empty : EqualParts (.ref none) (.ref none)
  | wrapper {v w : Value} (h : v.equals w = true) : EqualParts (.ref (some v)) (.ref (some w))
  | object {o p : HostObject} (h : o.identity = p.identity) : EqualParts (.object o) (.object p)

theorem equalItems_iff {vs ws : List Value} :
    equalItems vs ws = true ↔ List.Forall₂ (fun v w => v.equals w = true) vs ws := by
  induction vs generalizing ws with
  | nil => cases ws <;> simp [equalItems]
  | cons v vs ih =>
    cases ws with
    | nil => simp [equalItems]
    | cons w ws => simp [equalItems, ih]

theorem equalEntries_iff {d e : Dict} :
    equalEntries d e = true ↔ List.Forall₂ EqualEntry d e := by
  induction d generalizing e with
  | nil => cases e <;> simp [equalEntries]
  | cons a d ih =>
    cases e with
    | nil => simp [equalEntries]
    | cons b e =>
      obtain ⟨k, v⟩ := a
      obtain ⟨l, w⟩ := b
      simp [equalEntries, EqualEntry, ih]

theorem equalNamed_iff {d e : TextDict} :
    equalNamed d e = true ↔ List.Forall₂ EqualEntry d e := by
  induction d generalizing e with
  | nil => cases e <;> simp [equalNamed]
  | cons a d ih =>
    cases e with
    | nil => simp [equalNamed]
    | cons b e =>
      obtain ⟨k, v⟩ := a
      obtain ⟨l, w⟩ := b
      simp [equalNamed, EqualEntry, ih]

theorem equalParts_of_equals {v w : Value} (h : v.equals w = true) : EqualParts v w := by
  fun_cases equals v w with
  | case1 => exact .null
  | case2 a b =>
    rw [equals, beq_iff_eq] at h
    exact h ▸ .bool a
  | case3 a b =>
    rw [equals, beq_iff_eq] at h
    exact h ▸ .int a
  | case4 x y =>
    rw [equals] at h
    exact .float h
  | case5 s t =>
    rw [equals, beq_iff_eq] at h
    exact h ▸ .text s
  | case6 a b =>
    rw [equals, decide_eq_true_iff] at h
    exact h ▸ .duration a
  | case7 a b =>
    rw [equals, decide_eq_true_iff] at h
    exact h ▸ .instant a
  | case8 vs ws =>
    rw [equals, equalItems_iff] at h
    exact .list h
  | case9 d e =>
    rw [equals, equalEntries_iff] at h
    exact .dict h
  | case10 d e =>
    rw [equals, equalNamed_iff] at h
    exact .textDict h
  | case11 => exact .empty
  | case12 v w =>
    rw [equals] at h
    exact .wrapper h
  | case13 o p =>
    rw [equals, beq_iff_eq] at h
    exact .object h
  | case14 => simp_all [equals]

theorem equals_of_parts {v w : Value} (h : EqualParts v w) : v.equals w = true := by
  cases h with
  | list h => rw [equals, equalItems_iff.mpr h]
  | dict h => rw [equals, equalEntries_iff.mpr h]
  | textDict h => rw [equals, equalNamed_iff.mpr h]
  | _ => simp_all [equals]

/-- Two values are equal if and only if they are so by their parts. -/
theorem equals_iff {v w : Value} : v.equals w = true ↔ EqualParts v w :=
  ⟨equalParts_of_equals, equals_of_parts⟩

/-! ### Equality as a relation -/

theorem forall₂_symm {α : Type} {r : α → α → Prop} {xs ys : List α}
    (hParts : ∀ x ∈ xs, ∀ y, r x y → r y x) (h : List.Forall₂ r xs ys) :
    List.Forall₂ r ys xs := by
  induction h with
  | nil => exact .nil
  | cons hFirst _ ih =>
    obtain ⟨hHead, hRest⟩ := List.forall_mem_cons.mp hParts
    exact .cons (hHead _ hFirst) (ih hRest)

theorem forall₂_trans {α : Type} {r : α → α → Prop} {xs ys zs : List α}
    (hParts : ∀ x ∈ xs, ∀ y z, r x y → r y z → r x z) (hxy : List.Forall₂ r xs ys)
    (hyz : List.Forall₂ r ys zs) : List.Forall₂ r xs zs := by
  induction hxy generalizing zs with
  | nil => exact hyz
  | cons hFirst _ ih =>
    obtain ⟨hHead, hRest⟩ := List.forall_mem_cons.mp hParts
    cases hyz with
    | cons hSecond hyz => exact .cons (hHead _ _ hFirst hSecond) (ih hRest hyz)

theorem equals_symm {v w : Value} (h : v.equals w = true) : w.equals v = true := by
  induction v using byParts generalizing w with
  | simple v hSimple =>
    cases equals_iff.mp h with
    | float hNumber =>
      rw [Binary64.equals_comm] at hNumber
      exact equals_iff.mpr (.float hNumber)
    | object hSame => exact equals_iff.mpr (.object hSame.symm)
    | list | dict | textDict | empty | wrapper => simp [kind] at hSimple
    | _ => exact h
  | list vs ih =>
    cases equals_iff.mp h with
    | list hItems => exact equals_iff.mpr (.list (forall₂_symm (fun v hv w => ih v hv) hItems))
  | dict d ih =>
    cases equals_iff.mp h with
    | dict hEntries =>
      refine equals_iff.mpr (.dict (forall₂_symm (fun a ha b hab => ?_) hEntries))
      exact ⟨hab.1.symm, ih a ha hab.2⟩
  | textDict d ih =>
    cases equals_iff.mp h with
    | textDict hEntries =>
      refine equals_iff.mpr (.textDict (forall₂_symm (fun a ha b hab => ?_) hEntries))
      exact ⟨hab.1.symm, ih a ha hab.2⟩
  | empty =>
    cases equals_iff.mp h with
    | empty => exact h
  | wrapper v ih =>
    cases equals_iff.mp h with
    | wrapper hInside => exact equals_iff.mpr (.wrapper (ih hInside))

theorem equals_comm (v w : Value) : v.equals w = w.equals v :=
  Bool.eq_iff_iff.mpr ⟨equals_symm, equals_symm⟩

theorem equals_trans {u v w : Value} (huv : u.equals v = true) (hvw : v.equals w = true) :
    u.equals w = true := by
  induction u using byParts generalizing v w with
  | simple u hSimple =>
    cases equals_iff.mp huv with
    | float hxy =>
      cases equals_iff.mp hvw with
      | float hyz => exact equals_iff.mpr (.float (Binary64.equals_trans hxy hyz))
    | object hop =>
      cases equals_iff.mp hvw with
      | object hpq => exact equals_iff.mpr (.object (hop.trans hpq))
    | list | dict | textDict | empty | wrapper => simp [kind] at hSimple
    | _ => exact hvw
  | list us ih =>
    cases equals_iff.mp huv with
    | list hFirst =>
      cases equals_iff.mp hvw with
      | list hSecond =>
        exact equals_iff.mpr (.list (forall₂_trans (fun u hu v w => ih u hu) hFirst hSecond))
  | dict d ih =>
    cases equals_iff.mp huv with
    | dict hFirst =>
      cases equals_iff.mp hvw with
      | dict hSecond =>
        refine equals_iff.mpr (.dict (forall₂_trans (fun a ha b c hab hbc => ?_) hFirst hSecond))
        exact ⟨hab.1.trans hbc.1, ih a ha hab.2 hbc.2⟩
  | textDict d ih =>
    cases equals_iff.mp huv with
    | textDict hFirst =>
      cases equals_iff.mp hvw with
      | textDict hSecond =>
        refine equals_iff.mpr
          (.textDict (forall₂_trans (fun a ha b c hab hbc => ?_) hFirst hSecond))
        exact ⟨hab.1.trans hbc.1, ih a ha hab.2 hbc.2⟩
  | empty =>
    cases equals_iff.mp huv with
    | empty => exact hvw
  | wrapper u ih =>
    cases equals_iff.mp huv with
    | wrapper hFirst =>
      cases equals_iff.mp hvw with
      | wrapper hSecond => exact equals_iff.mpr (.wrapper (ih hFirst hSecond))

end Value

end BotScript
