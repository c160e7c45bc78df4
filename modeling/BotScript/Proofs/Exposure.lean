import BotScript.Proofs.Nested
import BotScript.Proofs.Safety

/-! What a nested template finds as its arguments, and how much of it has been checked.  Of a single
argument only the value inside its wrappers is compared with the data bag, and of several arguments
only what lies in the map that they make, below maps and wrappers.  `Unchecked` are the places that
remain, and the arguments are contained if and only if these places are harmless. -/

namespace BotScript

open Script Safety

/-- The places in what a nested template finds as its arguments that no check has looked at. -/
def Unchecked (arguments : List Value) (v : Value) (level : Nat) (u : Value) : Prop :=
  Place .all v level u ∧
    match arguments with
    | [_] => ¬Place .wrappers v level u
    | _ => ¬(0 < level ∧ Place .checked v level u)

/-- What is reached through wrappers alone is the value inside them, if it is no wrapper itself. -/
theorem Safety.Place.dereference_eq {v u : Value} {level : Nat} (h : Place .wrappers v level u) :
    level = 0 ∧ v.dereference = u.dereference := by
  induction h with
  | here v => exact ⟨rfl, rfl⟩
  | inRef _ ih => exact ih
  | inList hLists => exact absurd hLists Bool.false_ne_true
  | inDict hMaps => exact absurd hMaps Bool.false_ne_true
  | inTextDict hMaps => exact absurd hMaps Bool.false_ne_true

variable {limits : Limits} {bag : TextDict} {arguments : List Value} {v u : Value} {level : Nat}

/-- A single argument is found as it is.  It is no copy of the data bag, in wrappers or without. -/
theorem nestedArguments_single {single : Value}
    (h : nestedArguments limits bag [single] = .ok v) :
    v = single ∧ ∀ entries, single.dereference = some (.textDict entries) →
      Value.equalNamed entries bag = false := by
  rw [nestedArguments] at h
  split at h
  · rename_i found hFound
    by_cases hEqual : Value.equalNamed found bag = true
    · simp [hEqual] at h
    · rw [if_neg hEqual] at h
      cases h
      refine ⟨rfl, fun entries hEntries => ?_⟩
      rw [hFound] at hEntries
      cases hEntries
      exact Bool.eq_false_iff.mpr hEqual
  · rename_i hOther
    cases h
    exact ⟨rfl, fun entries hEntries => absurd hEntries (hOther entries)⟩

/-- What several arguments make, if they are accepted, is a map that has passed the check. -/
theorem nestedArguments_several (hNone : arguments ≠ []) (hOne : ∀ single, arguments ≠ [single])
    (h : nestedArguments limits bag arguments = .ok v) :
    ∃ entries, v = .textDict entries ∧
      isSafe bag limits.mapDepth 0 (.textDict entries) = true := by
  unfold nestedArguments at h
  split at h
  · exact absurd rfl hNone
  · exact absurd rfl (hOne _)
  · split at h
    · rename_i entries _
      by_cases hSafe : isSafe bag limits.mapDepth 0 (.textDict entries) = true
      · rw [if_pos hSafe] at h
        cases h
        exact ⟨entries, rfl, hSafe⟩
      · simp [hSafe] at h
    · exact nomatch h

/-- What is reached through the wrappers of an accepted single argument is harmless. -/
theorem harmless_of_single {single : Value} (h : nestedArguments limits bag [single] = .ok v)
    (hPlace : Place .wrappers v level u) : Harmless bag limits.mapDepth level u := by
  obtain ⟨rfl, hCopy⟩ := nestedArguments_single h
  obtain ⟨rfl, hInside⟩ := hPlace.dereference_eq
  cases u with
  | dict entries => exact Nat.zero_le _
  | textDict entries => exact ⟨Nat.zero_le _, hCopy entries hInside⟩
  | _ => trivial

/-- What a nested template finds as its arguments is contained if and only if the places that no
check has looked at are harmless. -/
theorem contained_iff_unchecked (h : nestedArguments limits bag arguments = .ok v) :
    Contained bag limits.mapDepth v ↔
      ∀ level u, Unchecked arguments v level u → Harmless bag limits.mapDepth level u := by
  refine ⟨fun hContained level u hUnchecked => hContained level u hUnchecked.1,
    fun hRest level u hPlace => ?_⟩
  by_cases hUnchecked : Unchecked arguments v level u
  · exact hRest level u hUnchecked
  match arguments, h, hUnchecked with
  | [], h, _ =>
    cases h
    cases hPlace
    trivial
  | [single], h, hUnchecked =>
    have hWrappers : Place .wrappers v level u :=
      Classical.byContradiction fun hNot => hUnchecked ⟨hPlace, hNot⟩
    exact harmless_of_single h hWrappers
  | first :: second :: rest, h, hUnchecked =>
    obtain ⟨entries, rfl, hSafe⟩ := nestedArguments_several (by simp) (by simp) h
    have hChecked : 0 < level ∧ Place .checked (.textDict entries) level u :=
      Classical.byContradiction fun hNot => hUnchecked ⟨hPlace, hNot⟩
    obtain ⟨hLevel, hChecked⟩ := hChecked
    cases level with
    | zero => exact absurd hLevel (Nat.lt_irrefl 0)
    | succ below => exact harmless_of_isSafe hSafe hChecked

/-- Wherever the body of a nested call starts it finds its arguments in the data bag, and they are
contained if and only if the places that no check has looked at are harmless. -/
theorem exposed_contained_iff {name : String} {target : Target} {env : Environment} {s : Session}
    {t : Template} {start : Session}
    (h : bodyStart? name target arguments env s = some (t, start)) :
    ∃ v, nestedArguments env.limits s.bag arguments = .ok v ∧
      Entries.get? argumentsKey start.bag = some v ∧
      (Contained s.bag env.limits.mapDepth v ↔
        ∀ level u, Unchecked arguments v level u →
          Harmless s.bag env.limits.mapDepth level u) := by
  obtain ⟨frame, ready, v, -, hValue, rfl⟩ := bodyStart?_eq_some name target arguments env s h
  exact ⟨v, hValue, Entries.get?_insert_self s.bag, contained_iff_unchecked hValue⟩

/-- The session of an execution that has put a user's name in the data bag. -/
def namedSession : Session :=
  { sampleEnvironment.start with bag := [("User", .text "alice")] }

/-- What a nested template is to find: a text, and a list with a map in it. -/
def invitation : Value :=
  .textDict [("to", .text "bob"), ("with", .list [.textDict [("age", .int 7)]])]

/-- Several arguments make a map.  It is contained, since the map in its list, at which no check has
looked, is not too deep and no copy of the data bag. -/
theorem exposed_map_contained : ∃ start v,
    bodyStart? "child" (.channel none)
        [.text "to", .text "bob", .text "with", .list [.textDict [("age", .int 7)]]]
        sampleEnvironment namedSession = some (⟨"child"⟩, start) ∧
    Entries.get? argumentsKey start.bag = some v ∧ v = invitation ∧
    Contained namedSession.bag sampleEnvironment.limits.mapDepth v := by
  have hStart : ∃ start, bodyStart? "child" (.channel none)
      [.text "to", .text "bob", .text "with", .list [.textDict [("age", .int 7)]]]
      sampleEnvironment namedSession = some (⟨"child"⟩, start) := ⟨_, rfl⟩
  obtain ⟨start, hStart⟩ := hStart
  obtain ⟨v, hValue, hFound, hIff⟩ := exposed_contained_iff hStart
  have hMap : v = invitation := (Except.ok.inj hValue).symm
  refine ⟨start, v, hStart, hFound, hMap, hIff.mpr fun level u hUnchecked => ?_⟩
  have hPlace := hUnchecked.1
  rw [hMap] at hPlace
  cases hPlace with
  | here => exact ⟨by decide, by simp [namedSession, Value.equalNamed]⟩
  | inTextDict _ hMem hPlace =>
    simp only [List.mem_cons, List.not_mem_nil, or_false] at hMem
    rcases hMem with rfl | rfl
    · cases hPlace
      trivial
    · cases hPlace with
      | here => trivial
      | inList _ hMem hPlace =>
        obtain rfl := List.mem_singleton.mp hMem
        cases hPlace with
        | here => exact ⟨by decide, by simp [namedSession, Value.equalNamed]⟩
        | inTextDict _ hMem hPlace =>
          obtain rfl := List.mem_singleton.mp hMem
          cases hPlace
          trivial

/-- A list that holds a copy of the data bag is not noticed: the body starts, and finds the copy. -/
theorem exposed_list_not_contained : ∃ start v,
    bodyStart? "child" (.channel none) [.list [.textDict namedSession.bag]] sampleEnvironment
      namedSession = some (⟨"child"⟩, start) ∧
    Entries.get? argumentsKey start.bag = some v ∧
    ¬Contained namedSession.bag sampleEnvironment.limits.mapDepth v := by
  refine ⟨_, _, rfl, rfl, fun hContained => ?_⟩
  have hCopy : Value.equalNamed namedSession.bag namedSession.bag = false :=
    (hContained 0 (.textDict namedSession.bag)
      (.inList rfl List.mem_cons_self (.here _))).2
  simp [namedSession, Value.equalNamed, Value.equals] at hCopy

end BotScript
