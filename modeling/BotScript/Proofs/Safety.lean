import BotScript.Safety

/-! What the check of maps guarantees.  A place is where a value lies inside another, and its level
is the number of maps around it.  The check finds the places that are reached through maps and
wrappers alone: all of these are harmless in a value that it accepts. -/

namespace BotScript.Safety

/-- The layers that are looked through besides wrappers. -/
structure Layers where
  maps : Bool
  lists : Bool

namespace Layers

/-- Only what is in wrappers. -/
def wrappers : Layers := ⟨false, false⟩

/-- What is in wrappers and maps, which is what the check looks through. -/
def checked : Layers := ⟨true, false⟩

/-- All that is in a value. -/
def all : Layers := ⟨true, true⟩

end Layers

/-- `Place layers v level u` says that `u` is `v` or lies in it, below `level` maps. -/
inductive Place (layers : Layers) : Value → Nat → Value → Prop
  | here (v : Value) : Place layers v 0 v
  | inRef {v u : Value} {level : Nat} (h : Place layers v level u) :
      Place layers (.ref (some v)) level u
  | inList {items : List Value} {v u : Value} {level : Nat} (hLists : layers.lists = true)
      (hMem : v ∈ items) (h : Place layers v level u) : Place layers (.list items) level u
  | inDict {entries : Dict} {e : Key × Value} {u : Value} {level : Nat}
      (hMaps : layers.maps = true) (hMem : e ∈ entries) (h : Place layers e.2 level u) :
      Place layers (.dict entries) (level + 1) u
  | inTextDict {entries : TextDict} {e : String × Value} {u : Value} {level : Nat}
      (hMaps : layers.maps = true) (hMem : e ∈ entries) (h : Place layers e.2 level u) :
      Place layers (.textDict entries) (level + 1) u

/-- A value that may lie below `level` maps: a map is not too deep there, and is no copy of the data
bag. -/
def Harmless (bag : TextDict) (maxDepth level : Nat) : Value → Prop
  | .dict _ => level ≤ maxDepth
  | .textDict entries => level ≤ maxDepth ∧ Value.equalNamed entries bag = false
  | _ => True

/-- A value in which no map lies too deep, and none is a copy of the data bag. -/
def Contained (bag : TextDict) (maxDepth : Nat) (v : Value) : Prop :=
  ∀ level u, Place .all v level u → Harmless bag maxDepth level u

section Check

variable {bag : TextDict} {maxDepth depth : Nat}

/-- A map of any keys is allowed if it is not too deep and its values are allowed. -/
theorem entriesAreSafe_iff (entries : Dict) :
    entriesAreSafe bag maxDepth depth entries = true ↔
      ∀ e ∈ entries, memberIsSafe bag maxDepth depth e.2 = true := by
  induction entries with
  | nil => simp [entriesAreSafe]
  | cons e rest ih => simp [entriesAreSafe, ih]

theorem namedAreSafe_iff (entries : TextDict) :
    namedAreSafe bag maxDepth depth entries = true ↔
      ∀ e ∈ entries, memberIsSafe bag maxDepth depth e.2 = true := by
  induction entries with
  | nil => simp [namedAreSafe]
  | cons e rest ih => simp [namedAreSafe, ih]

/-- In a member that the check allows all places are harmless that the check finds. -/
theorem harmless_of_memberIsSafe {v u : Value} {level : Nat} (hPlace : Place .checked v level u)
    (hSafe : memberIsSafe bag maxDepth depth v = true) :
    Harmless bag maxDepth (depth + level) u := by
  induction hPlace generalizing depth with
  | here v =>
    cases v with
    | dict entries =>
      simp only [memberIsSafe, Bool.and_eq_true, decide_eq_true_eq] at hSafe
      exact hSafe.1
    | textDict entries =>
      simp only [memberIsSafe, Bool.and_eq_true, decide_eq_true_eq, Bool.not_eq_true'] at hSafe
      exact hSafe.1
    | _ => trivial
  | inRef _ ih =>
    rw [memberIsSafe] at hSafe
    exact ih hSafe
  | inList hLists => exact absurd hLists Bool.false_ne_true
  | @inDict entries e u level _ hMem _ ih =>
    simp only [memberIsSafe, Bool.and_eq_true, decide_eq_true_eq] at hSafe
    have hInner := ih ((entriesAreSafe_iff entries).mp hSafe.2 e hMem)
    rw [show depth + (level + 1) = depth + 1 + level by omega]
    exact hInner
  | @inTextDict entries e u level _ hMem _ ih =>
    simp only [memberIsSafe, Bool.and_eq_true, decide_eq_true_eq] at hSafe
    have hInner := ih ((namedAreSafe_iff entries).mp hSafe.2 e hMem)
    rw [show depth + (level + 1) = depth + 1 + level by omega]
    exact hInner

/-- In a map that the check accepts all places are harmless that the check finds, the map itself
apart. -/
theorem harmless_of_isSafe {entries : TextDict} {u : Value} {level : Nat}
    (hSafe : isSafe bag maxDepth 0 (.textDict entries) = true)
    (hPlace : Place .checked (.textDict entries) (level + 1) u) :
    Harmless bag maxDepth (level + 1) u := by
  simp only [isSafe, Value.dereference, Bool.and_eq_true] at hSafe
  cases hPlace with
  | @inTextDict _ e _ _ _ hMem h =>
    have hMember := (namedAreSafe_iff entries).mp hSafe.2 e hMem
    rw [show level + 1 = 0 + 1 + level by omega]
    exact harmless_of_memberIsSafe h hMember

mutual

theorem memberIsSafe_of_harmless (depth : Nat) : (v : Value) →
    (∀ level u, Place .checked v level u → Harmless bag maxDepth (depth + level) u) →
      memberIsSafe bag maxDepth depth v = true
  | .ref (some v), h => by
    rw [memberIsSafe]
    exact memberIsSafe_of_harmless depth v fun level u hPlace => h level u (.inRef hPlace)
  | .dict entries, h => by
    have hHere : depth ≤ maxDepth := h 0 _ (.here _)
    rw [memberIsSafe, decide_eq_true hHere, Bool.true_and]
    refine entriesAreSafe_of_harmless (depth + 1) entries fun e hMem level u hPlace => ?_
    rw [show depth + 1 + level = depth + (level + 1) by omega]
    exact h (level + 1) u (.inDict rfl hMem hPlace)
  | .textDict entries, h => by
    obtain ⟨hDepth, hCopy⟩ : depth ≤ maxDepth ∧ Value.equalNamed entries bag = false :=
      h 0 _ (.here _)
    rw [memberIsSafe, decide_eq_true hDepth, hCopy, Bool.not_false, Bool.true_and, Bool.true_and]
    refine namedAreSafe_of_harmless (depth + 1) entries fun e hMem level u hPlace => ?_
    rw [show depth + 1 + level = depth + (level + 1) by omega]
    exact h (level + 1) u (.inTextDict rfl hMem hPlace)
  | .null, _ | .bool _, _ | .int _, _ | .float _, _ | .text _, _ | .duration _, _
  | .instant _, _ | .list _, _ | .ref none, _ | .object _, _ => by simp [memberIsSafe]

theorem entriesAreSafe_of_harmless (depth : Nat) : (entries : Dict) →
    (∀ e ∈ entries, ∀ level u, Place .checked e.2 level u →
      Harmless bag maxDepth (depth + level) u) →
      entriesAreSafe bag maxDepth depth entries = true
  | [], _ => by rw [entriesAreSafe]
  | (_, v) :: entries, h => by
    obtain ⟨hFirst, hRest⟩ := List.forall_mem_cons.mp h
    rw [entriesAreSafe, memberIsSafe_of_harmless depth v hFirst,
      entriesAreSafe_of_harmless depth entries hRest, Bool.and_self]

theorem namedAreSafe_of_harmless (depth : Nat) : (entries : TextDict) →
    (∀ e ∈ entries, ∀ level u, Place .checked e.2 level u →
      Harmless bag maxDepth (depth + level) u) →
      namedAreSafe bag maxDepth depth entries = true
  | [], _ => by rw [namedAreSafe]
  | (_, v) :: entries, h => by
    obtain ⟨hFirst, hRest⟩ := List.forall_mem_cons.mp h
    rw [namedAreSafe, memberIsSafe_of_harmless depth v hFirst,
      namedAreSafe_of_harmless depth entries hRest, Bool.and_self]

end

/-- The check accepts a map if and only if all places in it are harmless that it finds, the map
itself apart. -/
theorem isSafe_iff (entries : TextDict) :
    isSafe bag maxDepth 0 (.textDict entries) = true ↔ ∀ level u,
      Place .checked (.textDict entries) (level + 1) u → Harmless bag maxDepth (level + 1) u := by
  refine ⟨fun hSafe level u => harmless_of_isSafe hSafe, fun h => ?_⟩
  have hMembers : namedAreSafe bag maxDepth 1 entries = true :=
    namedAreSafe_of_harmless 1 entries fun e hMem level u hPlace => by
      rw [Nat.add_comm 1 level]
      exact h level u (.inTextDict rfl hMem hPlace)
  simp [isSafe, Value.dereference, hMembers]

end Check

end BotScript.Safety
