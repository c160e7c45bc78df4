import BotScript.Proofs.Safety

/-! How deep the maps in a value lie.  One step leads from a map to a map that is one of its values,
in wrappers or not, and `MapBelow v steps m` says that so many steps lead from `v` to the map `m`.
The main statement is that the check accepts a value at a depth if and only if the value itself is
not too deep and no step leads to a map that is, or to a copy of the data bag.  The value that is
checked may be a copy itself: only what lies below it is compared. -/

namespace BotScript.Safety

/-- The values of the map inside all wrappers; what is no map has none. -/
def mapValues (v : Value) : List Value :=
  match v.dereference with
  | some (.dict entries) => entries.map Prod.snd
  | some (.textDict entries) => entries.map Prod.snd
  | _ => []

/-- The map `m` is reached from `v` in a number of steps, one at least. -/
inductive MapBelow : Value → Nat → Value → Prop
  | value {v w m : Value} (hMem : w ∈ mapValues v) (hInside : w.dereference = some m)
      (hMap : m.kind = .map) : MapBelow v 1 m
  | deeper {v w m : Value} {steps : Nat} (hMem : w ∈ mapValues v) (h : MapBelow w steps m) :
      MapBelow v (steps + 1) m

/-- A map from texts that is equal to the data bag. -/
def CopiesBag (bag : TextDict) (m : Value) : Prop :=
  ∃ entries, m = .textDict entries ∧ Value.equalNamed entries bag = true

/-- The deepest maps of a map lie so many steps below it.  In a chain of maps, each the only map in
the one around it, this is where the last of them lies. -/
structure DeepestBelow (v : Value) (levels : Nat) : Prop where
  isMap : v.kindInside = .map
  reached : levels = 0 ∨ ∃ m, MapBelow v levels m
  deepest : ∀ steps m, MapBelow v steps m → steps ≤ levels

section Steps

variable {bag : TextDict} {maxDepth depth level steps : Nat} {v w m u : Value} {layers : Layers}

theorem MapBelow.isMap (h : MapBelow v steps m) : m.kind = .map := by
  induction h with
  | value _ _ hMap => exact hMap
  | deeper _ _ ih => exact ih

theorem mapValues_eq_nil (h : v.kindInside ≠ .map) : mapValues v = [] := by
  unfold Value.kindInside at h
  unfold mapValues
  split at h
  · rename_i hNone
    rw [hNone]
  · rename_i inner hInner
    rw [hInner]
    cases inner with
    | dict entries => exact absurd rfl h
    | textDict entries => exact absurd rfl h
    | _ => rfl

theorem harmless_iff_of_map (hMap : m.kind = .map) :
    Harmless bag maxDepth level m ↔ level ≤ maxDepth ∧ ¬CopiesBag bag m := by
  cases m with
  | dict entries => simp [Harmless, CopiesBag]
  | textDict entries => simp [Harmless, CopiesBag]
  | _ => exact nomatch hMap

theorem harmless_of_not_map (h : u.kind ≠ .map) : Harmless bag maxDepth level u := by
  cases u with
  | dict entries => exact absurd rfl h
  | textDict entries => exact absurd rfl h
  | _ => trivial

/-! ### Steps and places -/

/-- What lies inside the wrappers of a value lies in the value. -/
theorem Place.through (hInside : v.dereference = some w) (h : Place layers w level u) :
    Place layers v level u := by
  fun_induction Value.dereference v with
  | case1 => cases hInside
  | case2 => cases hInside
  | case3 v ih => exact .inRef (ih hInside)
  | case4 v _ _ _ =>
    cases hInside
    exact h

theorem Place.ofValue (hMem : w ∈ mapValues v) (h : Place .checked w level u) :
    Place .checked v (level + 1) u := by
  unfold mapValues at hMem
  split at hMem
  · rename_i entries hInside
    obtain ⟨e, he, rfl⟩ := List.mem_map.mp hMem
    exact .through hInside (.inDict rfl he h)
  · rename_i entries hInside
    obtain ⟨e, he, rfl⟩ := List.mem_map.mp hMem
    exact .through hInside (.inTextDict rfl he h)
  · exact absurd hMem List.not_mem_nil

/-- Steps lead to places that the check looks at. -/
theorem MapBelow.place (h : MapBelow v (steps + 1) m) :
    ∃ w ∈ mapValues v, Place .checked w steps m := by
  -- The number of steps is not yet a variable, and the induction needs one.
  generalize hSteps : steps + 1 = n at h
  induction h generalizing steps with
  | value hMem hInside _ =>
    obtain rfl : steps = 0 := by omega
    exact ⟨_, hMem, .through hInside (.here _)⟩
  | @deeper v w m k hMem h ih =>
    cases k with
    | zero => exact nomatch h
    | succ k =>
      obtain ⟨x, hx, hPlace⟩ := ih rfl
      obtain rfl : steps = k + 1 := by omega
      exact ⟨w, hMem, .ofValue hx hPlace⟩

/-- A map at a place that the check looks at is the value itself, in wrappers or not, or is reached
from it in as many steps as there are maps around the place. -/
theorem Place.mapBelow (h : Place .checked v level m) (hMap : m.kind = .map) :
    level = 0 ∧ v.dereference = some m ∨ MapBelow v level m := by
  induction h with
  | here m =>
    left
    cases m with
    | dict entries => exact ⟨rfl, rfl⟩
    | textDict entries => exact ⟨rfl, rfl⟩
    | _ => exact nomatch hMap
  | inRef _ ih =>
    rcases ih hMap with hHere | hBelow
    · exact .inl hHere
    · right
      cases hBelow with
      | value hMem hInside hMap => exact .value hMem hInside hMap
      | deeper hMem hBelow => exact .deeper hMem hBelow
  | inList hLists => exact absurd hLists Bool.false_ne_true
  | @inDict entries e m level _ hMem _ ih =>
    have hValue : e.2 ∈ mapValues (.dict entries) := List.mem_map_of_mem hMem
    right
    rcases ih hMap with ⟨rfl, hInside⟩ | hBelow
    · exact .value hValue hInside hMap
    · exact .deeper hValue hBelow
  | @inTextDict entries e m level _ hMem _ ih =>
    have hValue : e.2 ∈ mapValues (.textDict entries) := List.mem_map_of_mem hMem
    right
    rcases ih hMap with ⟨rfl, hInside⟩ | hBelow
    · exact .value hValue hInside hMap
    · exact .deeper hValue hBelow

theorem mapBelow_of_place (hMem : w ∈ mapValues v) (hMap : m.kind = .map)
    (h : Place .checked w steps m) : MapBelow v (steps + 1) m := by
  rcases h.mapBelow hMap with ⟨rfl, hInside⟩ | hBelow
  · exact .value hMem hInside hMap
  · exact .deeper hMem hBelow

/-! ### The check -/

theorem memberIsSafe_iff (v : Value) : memberIsSafe bag maxDepth depth v = true ↔
    ∀ level u, Place .checked v level u → Harmless bag maxDepth (depth + level) u := by
  constructor
  · intro hSafe level u hPlace
    exact harmless_of_memberIsSafe hPlace hSafe
  · exact memberIsSafe_of_harmless depth v

theorem isSafe_iff_values (v : Value) : isSafe bag maxDepth depth v = true ↔
    depth ≤ maxDepth ∧ ∀ w ∈ mapValues v, memberIsSafe bag maxDepth (depth + 1) w = true := by
  unfold isSafe mapValues
  rw [Bool.and_eq_true, decide_eq_true_eq]
  refine and_congr_right fun _ => ?_
  rcases v.dereference with _ | inner
  · simp
  · cases inner with
    | dict entries =>
      simp only [List.forall_mem_map]
      exact entriesAreSafe_iff entries
    | textDict entries =>
      simp only [List.forall_mem_map]
      exact namedAreSafe_iff entries
    | _ => simp

theorem isSafe_iff_mapBelow (v : Value) : isSafe bag maxDepth depth v = true ↔
    depth ≤ maxDepth ∧
      ∀ steps m, MapBelow v steps m → depth + steps ≤ maxDepth ∧ ¬CopiesBag bag m := by
  rw [isSafe_iff_values]
  refine and_congr_right fun _ => ⟨fun hValues steps m hBelow => ?_, fun h w hMem => ?_⟩
  · cases steps with
    | zero => exact nomatch hBelow
    | succ steps =>
      obtain ⟨w, hMem, hPlace⟩ := hBelow.place
      have hHarmless := (memberIsSafe_iff w).mp (hValues w hMem) steps m hPlace
      rw [show depth + 1 + steps = depth + (steps + 1) by omega] at hHarmless
      exact (harmless_iff_of_map hBelow.isMap).mp hHarmless
  · rw [memberIsSafe_iff]
    intro level u hPlace
    by_cases hMap : u.kind = .map
    · have hBelow := h (level + 1) u (mapBelow_of_place hMem hMap hPlace)
      rw [harmless_iff_of_map hMap]
      exact ⟨by omega, hBelow.2⟩
    · exact harmless_of_not_map hMap

/-- Nothing lies below a map without a map among its values. -/
theorem not_mapBelow_of_values (h : ∀ w ∈ mapValues v, w.kindInside ≠ .map) :
    ¬MapBelow v steps m := by
  intro hBelow
  induction hBelow with
  | value hMem hInside hMap =>
    apply h _ hMem
    unfold Value.kindInside
    rw [hInside]
    exact hMap
  | @deeper v w m steps hMem _ ih =>
    apply ih
    intro x hx
    rw [mapValues_eq_nil (h w hMem)] at hx
    exact absurd hx List.not_mem_nil

theorem not_mapBelow (h : v.kindInside ≠ .map) : ¬MapBelow v steps m := by
  apply not_mapBelow_of_values
  intro w hMem
  rw [mapValues_eq_nil h] at hMem
  exact absurd hMem List.not_mem_nil

/-- The maps below a map lie one step deeper than below its values. -/
theorem MapBelow.le_succ {levels : Nat}
    (hValues : ∀ w ∈ mapValues v, ∀ steps m, MapBelow w steps m → steps ≤ levels)
    (h : MapBelow v steps m) : steps ≤ levels + 1 := by
  cases h with
  | value => omega
  | deeper hMem hBelow =>
    have hSteps := hValues _ hMem _ _ hBelow
    omega

end Steps

/-- The check accepts a value at a depth if and only if the value is not too deep, and no map that
is reached from it is too deep or a copy of the data bag.  So what is no map is accepted where it is
not too deep, and a map at the top whose deepest maps lie no deeper than the bound if no map below
it is a copy; one level more is refused. -/
theorem isSafe_iff_steps (bag : TextDict) (maxDepth depth : Nat) (v : Value) :
    (isSafe bag maxDepth depth v = true ↔ depth ≤ maxDepth ∧
      ∀ steps m, MapBelow v steps m → depth + steps ≤ maxDepth ∧ ¬CopiesBag bag m) ∧
    (v.kindInside ≠ .map → (isSafe bag maxDepth depth v = true ↔ depth ≤ maxDepth)) ∧
    ∀ levels, DeepestBelow v levels →
      (levels ≤ maxDepth → (isSafe bag maxDepth 0 v = true ↔
        ∀ steps m, MapBelow v steps m → ¬CopiesBag bag m)) ∧
      (maxDepth < levels → isSafe bag maxDepth 0 v = false) := by
  refine ⟨isSafe_iff_mapBelow v, fun hOther => ?_, fun levels hDeepest => ⟨fun hLe => ?_, ?_⟩⟩
  · rw [isSafe_iff_mapBelow]
    exact ⟨And.left, fun hDepth => ⟨hDepth, fun _ _ hBelow => absurd hBelow (not_mapBelow hOther)⟩⟩
  · rw [isSafe_iff_mapBelow]
    constructor
    · intro hSafe steps m hBelow
      exact (hSafe.2 steps m hBelow).2
    · intro hCopies
      refine ⟨Nat.zero_le _, fun steps m hBelow => ⟨?_, hCopies steps m hBelow⟩⟩
      have hSteps := hDeepest.deepest steps m hBelow
      omega
  · intro hLt
    rw [← Bool.not_eq_true, isSafe_iff_mapBelow]
    rintro ⟨-, hSafe⟩
    rcases hDeepest.reached with rfl | ⟨m, hBelow⟩
    · omega
    · have hSteps := (hSafe levels m hBelow).1
      omega

/-- A chain of three maps, the second and the third in wrappers, and a map in a list beside it. -/
def shortChain : Value :=
  .textDict [("a", .boxed (.dict [(.int 1, .boxed (.boxed (.textDict [("leaf", .int 7)])))])),
    ("b", .list [.textDict []])]

theorem mapBelow_shortChain : MapBelow shortChain 2 (.textDict [("leaf", .int 7)]) :=
  .deeper List.mem_cons_self (.value List.mem_cons_self rfl rfl)

theorem deepestBelow_shortChain : DeepestBelow shortChain 2 where
  isMap := rfl
  reached := .inr ⟨_, mapBelow_shortChain⟩
  deepest _ _ h := by
    refine h.le_succ fun w hw steps m hBelow => ?_
    rcases List.mem_cons.mp hw with rfl | hw
    · refine hBelow.le_succ fun x hx steps m hInner => ?_
      obtain rfl := List.mem_singleton.mp hx
      exact absurd hInner (not_mapBelow_of_values (by decide))
    · obtain rfl := List.mem_singleton.mp hw
      exact absurd hBelow (not_mapBelow (by decide))

/-- The chain is accepted at the top with a bound of two, so that no map in it is a copy of the data
bag.  It is refused with a bound of one, and with its last map as the bag. -/
theorem isSafe_iff_steps_of_chain :
    let bag : TextDict := [("User", .text "alice")]
    DeepestBelow shortChain 2 ∧ isSafe bag 2 0 shortChain = true ∧
      (∀ steps m, MapBelow shortChain steps m → ¬CopiesBag bag m) ∧
      isSafe bag 1 0 shortChain = false ∧
      isSafe [("leaf", .int 7)] 2 0 shortChain = false ∧
      (Value.int 3).kindInside ≠ .map ∧ isSafe bag 5 5 (.int 3) = true := by
  intro bag
  have hDeepest := deepestBelow_shortChain
  have hSafe : isSafe bag 2 0 shortChain = true := by
    simp [bag, shortChain, isSafe, namedAreSafe, entriesAreSafe, memberIsSafe, Value.boxed,
      Value.dereference, Value.equalNamed]
  have hKind : (Value.int 3).kindInside ≠ .map := by decide
  obtain ⟨-, -, hTwo⟩ := isSafe_iff_steps bag 2 0 shortChain
  obtain ⟨-, -, hOne⟩ := isSafe_iff_steps bag 1 0 shortChain
  obtain ⟨-, hOther, -⟩ := isSafe_iff_steps bag 5 5 (.int 3)
  obtain ⟨hLeaf, -, -⟩ := isSafe_iff_steps [("leaf", .int 7)] 2 0 shortChain
  refine ⟨hDeepest, hSafe, ((hTwo 2 hDeepest).1 (by decide)).mp hSafe,
    (hOne 2 hDeepest).2 (by decide), ?_, hKind, (hOther hKind).mpr (by decide)⟩
  rw [← Bool.not_eq_true, hLeaf]
  rintro ⟨-, hNone⟩
  exact (hNone 2 _ mapBelow_shortChain).2 ⟨_, rfl, by simp [Value.equalNamed, Value.equals]⟩

end BotScript.Safety
