import BotScript.Containers
import Mathlib.Data.List.Induction

/-! Maps that are given by names and values in turn.  Each name has the value that it is given
last. -/

namespace BotScript

namespace Entries

variable {κ α : Type}

/-- The value of the last entry whose key satisfies `p`. -/
def last? (p : κ → Bool) (entries : List (κ × α)) : Option α :=
  ((entries.filter fun e => p e.1).getLast?).map (·.2)

variable {p : κ → Bool} {entries : List (κ × α)} {value : α}

theorem last?_append_singleton (e : κ × α) :
    last? p (entries ++ [e]) = if p e.1 then some e.2 else last? p entries := by
  by_cases h : p e.1 <;> simp [last?, List.filter_append, h]

theorem last?_eq_none_iff : last? p entries = none ↔ ∀ e ∈ entries, p e.1 = false := by
  simp [last?]

theorem last?_map_key {ι : Type} (f : ι → κ) (entries : List (ι × α)) :
    last? p (entries.map fun e => (f e.1, e.2)) = last? (fun k => p (f k)) entries := by
  simp only [last?, List.filter_map, List.getLast?_map, Option.map_map]
  rfl

theorem exists_last?_of_mem {key : κ} (hKey : p key = true) (h : (key, value) ∈ entries) :
    ∃ last, last? p entries = some last := by
  refine Option.ne_none_iff_exists'.mp fun hNone => ?_
  simp [last?_eq_none_iff.mp hNone _ h] at hKey

/-- The last entry of several keys is the last one of its own key. -/
theorem exists_key_of_last? [DecidableEq κ] (h : last? p entries = some value) :
    ∃ key, p key = true ∧ last? (fun k => decide (k = key)) entries = some value := by
  induction entries using List.reverseRecOn with
  | nil => simp [last?] at h
  | append_singleton rest e ih =>
    rw [last?_append_singleton] at h
    split at h
    · rename_i hKey
      refine ⟨e.1, hKey, ?_⟩
      simpa [last?_append_singleton] using h
    · rename_i hKey
      obtain ⟨key, hp, hLast⟩ := ih h
      have hNe : e.1 ≠ key := fun hEq => hKey (hEq ▸ hp)
      exact ⟨key, hp, by simpa [last?_append_singleton, hNe] using hLast⟩

theorem get?_ofList [Ord κ] [Std.LawfulEqOrd κ] [DecidableEq κ] (key : κ)
    (entries : List (κ × α)) :
    get? key (ofList entries) = last? (fun k => decide (k = key)) entries := by
  induction entries using List.reverseRecOn with
  | nil => rfl
  | append_singleton rest e ih =>
    have hStep : ofList (rest ++ [e]) = insert e.1 e.2 (ofList rest) := by
      simp [ofList, List.foldl_append]
    rw [hStep, last?_append_singleton]
    by_cases hKey : e.1 = key
    · subst hKey
      simp
    · rw [get?_insert_of_ne (Ne.symm hKey), ih]
      simp [hKey]

/-- The entries of a map are the last ones of their keys. -/
theorem mem_ofList_iff [Ord κ] [Std.LawfulEqOrd κ] [Std.TransOrd κ] [DecidableEq κ] {key : κ} :
    (key, value) ∈ ofList entries ↔ last? (fun k => decide (k = key)) entries = some value := by
  rw [mem_iff_get? (ascending_ofList entries), get?_ofList]

section Ascending

variable [Ord κ] [Std.LawfulEqOrd κ]

theorem greatest_of_last? (h : Ascending entries) (hLast : last? p entries = some value) :
    ∃ key, p key = true ∧ (key, value) ∈ entries ∧
      ∀ e ∈ entries, p e.1 = true → (compare e.1 key).isLE = true := by
  induction entries using List.reverseRecOn with
  | nil => simp [last?] at hLast
  | append_singleton rest e ih =>
    obtain ⟨hRest, -, hBelow⟩ := List.pairwise_append.mp h
    rw [last?_append_singleton] at hLast
    by_cases hKey : p e.1 = true
    · rw [if_pos hKey] at hLast
      obtain rfl := Option.some.inj hLast
      refine ⟨e.1, hKey, by simp, fun f hf _ => ?_⟩
      rcases List.mem_append.mp hf with hf | hf
      · rw [hBelow f hf e (List.mem_singleton_self e)]
        rfl
      · rw [List.mem_singleton.mp hf]
        exact Std.ReflOrd.isLE_rfl
    · rw [if_neg hKey] at hLast
      obtain ⟨key, hp, hMem, hGreatest⟩ := ih hRest hLast
      refine ⟨key, hp, List.mem_append_left _ hMem, fun f hf hpf => ?_⟩
      rcases List.mem_append.mp hf with hf | hf
      · exact hGreatest f hf hpf
      · exact absurd (List.mem_singleton.mp hf ▸ hpf) hKey

/-- In a map, the last entry of several keys is the one of the greatest key. -/
theorem last?_eq_some_iff [Std.TransOrd κ] (h : Ascending entries) :
    last? p entries = some value ↔ ∃ key, p key = true ∧ (key, value) ∈ entries ∧
      ∀ e ∈ entries, p e.1 = true → (compare e.1 key).isLE = true := by
  refine ⟨greatest_of_last? h, ?_⟩
  rintro ⟨key, hKey, hMem, hGreatest⟩
  obtain ⟨last, hLast⟩ := exists_last?_of_mem hKey hMem
  obtain ⟨key', hKey', hMem', hGreatest'⟩ := greatest_of_last? h hLast
  obtain rfl : key = key' := Std.LawfulEqCmp.eq_of_compare
    (Std.OrientedCmp.isLE_antisymm (hGreatest' _ hMem hKey) (hGreatest _ hMem' hKey'))
  rw [hLast, ← (mem_iff_get? h).mp hMem', (mem_iff_get? h).mp hMem]

end Ascending

theorem exists_mem_ofList_iff [Ord κ] [Std.LawfulEqOrd κ] [Std.TransOrd κ] [DecidableEq κ]
    {key : κ} : (∃ value, (key, value) ∈ ofList entries) ↔ ∃ value, (key, value) ∈ entries := by
  simp only [mem_ofList_iff]
  constructor
  · rintro ⟨value, hLast⟩
    by_contra hNone
    have hAll : ∀ e ∈ entries, decide (e.1 = key) = false :=
      fun e he => decide_eq_false fun hKey => hNone ⟨e.2, hKey ▸ he⟩
    rw [last?_eq_none_iff.mpr hAll] at hLast
    exact nomatch hLast
  · rintro ⟨value, hMem⟩
    exact exists_last?_of_mem (decide_eq_true rfl) hMem

end Entries

/-- Every name in a flat list of names and values is a text, in wrappers or not. -/
def TextNames (arguments : List Value) : Prop :=
  ∀ i name, arguments[2 * i]? = some name → name.asText?.isSome

/-- The texts and values of a flat list.  A name without a value is left out. -/
def namedValues : List Value → List (String × Value)
  | name :: value :: rest => (name.asText?.map (·, value)).toList ++ namedValues rest
  | _ => []

theorem asText?_eq_some_iff {v : Value} {s : String} :
    v.asText? = some s ↔ v.dereference = some (.text s) := by
  unfold Value.asText?
  split
  · rename_i h
    simp [h]
  · rename_i hOther
    exact iff_of_false nofun (hOther s)

theorem textNames_nil : TextNames [] := by
  intro i name hName
  simp at hName

theorem textNames_singleton {name : Value} : TextNames [name] ↔ name.asText?.isSome := by
  constructor
  · intro h
    exact h 0 name rfl
  · intro hName i other hOther
    cases i with
    | zero => exact Option.some.inj hOther ▸ hName
    | succ i => simp [Nat.mul_add] at hOther

theorem textNames_cons {name value : Value} {rest : List Value} :
    TextNames (name :: value :: rest) ↔ name.asText?.isSome ∧ TextNames rest := by
  constructor
  · intro h
    refine ⟨h 0 name rfl, fun i other hOther => h (i + 1) other ?_⟩
    simpa [Nat.mul_add] using hOther
  · rintro ⟨hName, hRest⟩ i other hOther
    cases i with
    | zero => exact Option.some.inj hOther ▸ hName
    | succ i => exact hRest i other (by simpa [Nat.mul_add] using hOther)

namespace TextDict

variable {arguments : List Value}

theorem setPairs_of_textNames {d : TextDict} (hNames : TextNames arguments)
    (hEven : arguments.length % 2 = 0) :
    setPairs d arguments =
      .ok ((namedValues arguments).foldl (fun es e => Entries.insert e.1 e.2 es) d) := by
  induction arguments using namedValues.induct generalizing d with
  | case1 name value rest ih =>
    obtain ⟨hName, hRest⟩ := textNames_cons.mp hNames
    obtain ⟨s, hText⟩ := Option.isSome_iff_exists.mp hName
    have hRestEven : rest.length % 2 = 0 := by
      simp only [List.length_cons] at hEven
      omega
    simp only [setPairs, asText?_eq_some_iff.mp hText, ih hRest hRestEven, namedValues, hText]
    rfl
  | case2 rest hShort =>
    match rest, hShort with
    | [], _ => rfl
    | [_], _ => simp at hEven
    | name :: value :: rest, hShort => exact absurd rfl (hShort name value rest)

/-- A flat list with a value for every name gives the map of the values given last. -/
theorem ofArguments_of_even (hNames : TextNames arguments) (hEven : arguments.length % 2 = 0) :
    ofArguments arguments = .ok (Entries.ofList (namedValues arguments)) := by
  unfold ofArguments
  split
  · simp at hEven
  · rw [if_pos hEven, setPairs_of_textNames hNames hEven]
    rfl

theorem ofArguments_of_odd (hNames : TextNames arguments) (hOdd : arguments.length % 2 = 1) :
    ∃ m, ofArguments arguments = .error m := by
  unfold ofArguments
  split
  · rename_i single
    obtain ⟨s, hText⟩ := Option.isSome_iff_exists.mp (textNames_singleton.mp hNames)
    rw [asText?_eq_some_iff.mp hText]
    exact ⟨_, rfl⟩
  · rw [if_neg (by omega)]
    exact ⟨_, rfl⟩

end TextDict

end BotScript
