import BotScript.Proofs.Containers.KeyOrder
import BotScript.Proofs.MapsBelow
import Mathlib.Data.Set.Card

/-! Maps while scripts change them.  A map that is empty or made of arguments, and then changed by
any edits, holds for each key what the last edit of that key left there.  Its entries stay in
ascending order of keys, so that each key that is present comes up once. -/

namespace BotScript

namespace Key

/-- The kinds of what is no key. -/
def keylessKinds : List Kind := [.invalid, .list, .map, .object]

@[simp] theorem ofValue_wrapped (n : Nat) (v : Value) : ofValue (.wrapped n v) = ofValue v := by
  simp [ofValue]

@[simp] theorem ofValue_toValue (k : Key) : ofValue k.toValue = .ok k := by
  cases k <;> rfl

/-- Nil, lists, maps and objects give no key, and everything else does. -/
theorem ofValue_eq_error_iff (v : Value) :
    (∃ m, ofValue v = .error m) ↔ v.kindInside ∈ keylessKinds := by
  rw [ofValue, Value.kindInside, keylessKinds]
  cases hInside : v.dereference with
  | none => simp
  | some inner =>
    cases inner with
    | null => exact absurd (Value.dereference_idem hInside) nofun
    | ref wrapped => exact absurd hInside (v.dereference_ne_ref wrapped)
    | _ => simp [Value.kind]

end Key

namespace Dict

/-- A change of a map. -/
inductive Edit
  | set (key value : Value)
  | remove (key : Value)

/-- What an edit leaves under a key, which is nothing after a removal.  An edit of another key, or
of what is no key, leaves what was there before. -/
def Edit.outcome? (k : Key) : Edit → Option (Option Value)
  | set key value => if (Key.ofValue key).toOption = some k then some (some value) else none
  | remove key => if (Key.ofValue key).toOption = some k then some none else none

/-- What the last edit of a key leaves there, or what was there before if no edit is one of the
key. -/
def lastValue? (k : Key) (before : Option Value) (edits : List Edit) : Option Value :=
  (edits.filterMap (Edit.outcome? k)).getLast?.getD before

/-- The map after an edit.  An edit that fails leaves the map as it is. -/
def apply (d : Dict) : Edit → Dict
  | .set key value =>
    match d.set key value with
    | .ok changed => changed
    | .error _ => d
  | .remove key => (d.remove key).2

/-- The map after edits. -/
def after (d : Dict) (edits : List Edit) : Dict := edits.foldl apply d

/-- A map that scripts can have: the empty one, and those that are made of arguments. -/
inductive Made : Dict → Prop
  | empty : Made []
  | ofArguments {arguments : List Value} {d : Dict} (hArguments : ∀ v ∈ arguments, v.WellFormed)
      (h : Dict.ofArguments arguments = .ok d) : Made d

/-- What a map `d` is if edits have made it of `start`. -/
structure Tracks (start : Dict) (edits : List Edit) (d : Dict) : Prop where
  value : ∀ key k, Key.ofValue key = .ok k → d.get? key = lastValue? k (start.get? key) edits
  inWrappers : ∀ n key value, d.get? (.wrapped n key) = d.get? key ∧
    d.has (.wrapped n key) = d.has key ∧ d.set (.wrapped n key) value = d.set key value ∧
    d.remove (.wrapped n key) = d.remove key
  ascending : Entries.Ascending d
  present : ∀ k value, (k, value) ∈ d ↔ d.get? k.toValue = some value
  once : (d.map Prod.fst).Nodup
  length : d.length = {k : Key | d.has k.toValue = true}.ncard
  removed : ∀ key, (d.remove key).1 = d.get? key
  settable : ∀ key value, key.kindInside ∉ Key.keylessKinds →
    ∃ changed, d.set key value = .ok changed
  keyless : ∀ key, key.kindInside ∈ Key.keylessKinds →
    (∃ m, ∀ value, d.set key value = .error m ∧ d.apply (.set key value) = d) ∧
    d.get? key = none ∧ d.has key = false ∧ d.remove key = (none, d)

variable {d start : Dict} {k : Key} {key : Value}

/-! ### One edit -/

theorem apply_set_of_ok (h : Key.ofValue key = .ok k) (value : Value) :
    d.apply (.set key value) = Entries.insert k value d := by
  simp only [apply, set, h, Except.map]

theorem apply_set_of_error {m : Mistake} (h : Key.ofValue key = .error m) (value : Value) :
    d.apply (.set key value) = d := by
  simp only [apply, set, h, Except.map]

theorem remove_of_ok (hAscending : Entries.Ascending d) (h : Key.ofValue key = .ok k) :
    d.remove key = (Entries.get? k d, Entries.erase k d) := by
  simp only [remove, h, Entries.remove_eq hAscending]

theorem remove_of_error {m : Mistake} (h : Key.ofValue key = .error m) :
    d.remove key = (none, d) := by
  simp only [remove, h]

theorem ascending_apply (h : Entries.Ascending d) (e : Edit) : Entries.Ascending (d.apply e) := by
  cases e with
  | set key value =>
    cases hKey : Key.ofValue key with
    | ok k =>
      rw [apply_set_of_ok hKey]
      exact Entries.ascending_insert h
    | error m =>
      rw [apply_set_of_error hKey]
      exact h
  | remove key =>
    cases hKey : Key.ofValue key with
    | ok k =>
      rw [apply, remove_of_ok h hKey]
      exact Entries.ascending_erase h
    | error m =>
      rw [apply, remove_of_error hKey]
      exact h

theorem get?_apply (h : Entries.Ascending d) (e : Edit) :
    Entries.get? k (d.apply e) = (Edit.outcome? k e).getD (Entries.get? k d) := by
  cases e with
  | set key value =>
    cases hKey : Key.ofValue key with
    | ok l =>
      rw [apply_set_of_ok hKey]
      by_cases hSame : l = k
      · simp [Edit.outcome?, hKey, hSame, Except.toOption]
      · simp [Edit.outcome?, hKey, hSame, Except.toOption,
          Entries.get?_insert_of_ne (Ne.symm hSame)]
    | error m => simp [apply_set_of_error hKey, Edit.outcome?, hKey, Except.toOption]
  | remove key =>
    cases hKey : Key.ofValue key with
    | ok l =>
      rw [apply, remove_of_ok h hKey]
      by_cases hSame : l = k
      · simp [Edit.outcome?, hKey, hSame, Except.toOption]
      · simp [Edit.outcome?, hKey, hSame, Except.toOption,
          Entries.get?_erase_of_ne (Ne.symm hSame)]
    | error m => simp [apply, remove_of_error hKey, Edit.outcome?, hKey, Except.toOption]

/-! ### Edits one after another -/

theorem lastValue?_cons (before : Option Value) (e : Edit) (edits : List Edit) :
    lastValue? k before (e :: edits) = lastValue? k ((Edit.outcome? k e).getD before) edits := by
  cases hOutcome : Edit.outcome? k e with
  | none => simp [lastValue?, hOutcome]
  | some left => simp [lastValue?, hOutcome, List.getLast?_cons]

theorem ascending_after (h : Entries.Ascending d) (edits : List Edit) :
    Entries.Ascending (d.after edits) := by
  induction edits generalizing d with
  | nil => exact h
  | cons e edits ih => exact ih (ascending_apply h e)

/-- After edits a key has what the last of its edits left there. -/
theorem get?_after (h : Entries.Ascending d) (edits : List Edit) :
    Entries.get? k (d.after edits) = lastValue? k (Entries.get? k d) edits := by
  induction edits generalizing d with
  | nil => rfl
  | cons e edits ih =>
    rw [lastValue?_cons, ← get?_apply h]
    exact ih (ascending_apply h e)

/-! ### Maps that are made -/

theorem ascending_ofTextDict {d : TextDict} (h : Entries.Ascending d) :
    Entries.Ascending (ofTextDict d) :=
  List.pairwise_map.mpr h

theorem ascending_setPairs {arguments : List Value} {made : Dict} (h : Entries.Ascending d)
    (hMade : setPairs d arguments = .ok made) : Entries.Ascending made := by
  fun_induction setPairs d arguments with
  | case1 d key value rest ih =>
    cases hKey : Key.ofValue key with
    | ok k =>
      simp only [set, hKey, Except.map] at hMade
      exact ih _ (Entries.ascending_insert h) hMade
    | error m =>
      simp only [set, hKey, Except.map] at hMade
      exact nomatch hMade
  | case2 d =>
    cases hMade
    exact h
  | case3 => exact nomatch hMade

theorem Made.ascending (h : Made d) : Entries.Ascending d := by
  cases h with
  | empty => exact .nil
  | @ofArguments arguments _ hArguments h =>
    unfold Dict.ofArguments at h
    split at h
    · rename_i single
      have hSingle : single.WellFormed := hArguments single (List.mem_singleton_self single)
      split at h
      · rename_i hInside
        cases h
        exact hSingle.dict 0 _ (Safety.Place.through hInside (.here _))
      · rename_i hInside
        cases h
        exact ascending_ofTextDict (hSingle.textDict 0 _ (Safety.Place.through hInside (.here _)))
      · exact nomatch h
    · split at h
      · exact ascending_setPairs .nil h
      · exact nomatch h

/-! ### What a map is -/

theorem get?_of_ok (h : Key.ofValue key = .ok k) : d.get? key = Entries.get? k d := by
  simp only [get?, h]

theorem nodup_keys (h : Entries.Ascending d) : (d.map Prod.fst).Nodup := by
  refine List.Pairwise.map Prod.fst (fun e f hLt hEq => ?_) h
  rw [hEq, Std.ReflOrd.compare_self] at hLt
  exact nomatch hLt

theorem mem_iff_get? (h : Entries.Ascending d) (value : Value) :
    (k, value) ∈ d ↔ d.get? k.toValue = some value := by
  rw [get?_of_ok (Key.ofValue_toValue k), Entries.mem_iff_get? h]

theorem length_eq_ncard (h : Entries.Ascending d) :
    d.length = {k : Key | d.has k.toValue = true}.ncard := by
  have hKeys : {k : Key | d.has k.toValue = true} = ↑(d.map Prod.fst).toFinset := by
    ext k
    simp only [Set.mem_ofPred_eq, has, Option.isSome_iff_exists, ← mem_iff_get? h,
      List.coe_toFinset, List.mem_map, Prod.exists, exists_and_right, exists_eq_right]
  rw [hKeys, Set.ncard_coe_finset, List.toFinset_card_of_nodup (nodup_keys h), List.length_map]

theorem tracks_after (hStart : Entries.Ascending start) (edits : List Edit) :
    Tracks start edits (start.after edits) where
  value key k hKey := by
    rw [get?_of_ok hKey, get?_of_ok hKey, get?_after hStart]
  inWrappers n key value := by simp [get?, has, set, remove]
  ascending := ascending_after hStart edits
  present k value := mem_iff_get? (ascending_after hStart edits) value
  once := nodup_keys (ascending_after hStart edits)
  length := length_eq_ncard (ascending_after hStart edits)
  removed key := by
    cases hKey : Key.ofValue key with
    | ok k => rw [remove_of_ok (ascending_after hStart edits) hKey, get?_of_ok hKey]
    | error m => simp only [remove_of_error hKey, get?, hKey]
  settable key value hKind := by
    cases hKey : Key.ofValue key with
    | ok k =>
      exact ⟨Entries.insert k value (start.after edits), by simp only [set, hKey, Except.map]⟩
    | error m => exact absurd ((Key.ofValue_eq_error_iff key).mp ⟨m, hKey⟩) hKind
  keyless key hKind := by
    obtain ⟨m, hKey⟩ := (Key.ofValue_eq_error_iff key).mpr hKind
    refine ⟨⟨m, fun value => ⟨?_, apply_set_of_error hKey value⟩⟩, ?_, ?_, remove_of_error hKey⟩
    · simp only [set, hKey, Except.map]
    · simp only [get?, hKey]
    · simp only [has, get?, hKey, Option.isSome_none]

/-- Keys are in a total order, in which keys that are not the same differ, and a map that is edited
has under each key what the last edit of the key left, in this order. -/
theorem finite_map :
    ((∀ k l : Key, (Ord.compare k l).isLE ∨ (Ord.compare l k).isLE) ∧
      (∀ k l : Key, (Ord.compare k l).isLE → (Ord.compare l k).isLE → k = l) ∧
      (∀ k l m : Key, (Ord.compare k l).isLE → (Ord.compare l m).isLE →
        (Ord.compare k m).isLE) ∧
      (∀ k l : Key, Ord.compare k l = .eq ↔ k = l) ∧
      ∀ x y, Ord.compare (Key.float x) (Key.float y) = .eq ↔ x.bits = y.bits) ∧
    ∀ start, Made start → ∀ edits, Tracks start edits (start.after edits) := by
  refine ⟨⟨?_, ?_, ?_, ?_, ?_⟩, fun start hStart edits => tracks_after hStart.ascending edits⟩
  · intro k l
    rw [← Std.OrientedCmp.isGE_iff_isLE (a := k)]
    cases Ord.compare k l <;> decide
  · intro k l hkl hlk
    exact Std.LawfulEqCmp.eq_of_compare (Std.OrientedCmp.isLE_antisymm hkl hlk)
  · exact fun k l m => Std.TransCmp.isLE_trans
  · exact fun k l => Std.compare_eq_iff_eq
  · intro x y
    rw [Std.compare_eq_iff_eq, Key.float.injEq, Binary64.mk.injEq]

/-- The two zeros and NaN are three keys, and the last edit of each of them counts. -/
theorem finite_map_of_numbers :
    let arguments : List Value := [.float .nan, .int 1, .boxed (.text "a"), .int 2]
    let edits : List Edit := [.set (.float .zero) (.int 3), .remove (.text "a"),
      .set (.float .negativeZero) (.int 4), .set (.boxed (.float .zero)) (.int 5),
      .set (.list []) (.int 6)]
    ∃ start, Dict.ofArguments arguments = .ok start ∧ Made start ∧
      Tracks start edits (start.after edits) ∧ start.after edits =
        [(.float .negativeZero, .int 4), (.float .zero, .int 5), (.float .nan, .int 1)] := by
  intro arguments edits
  have hArguments : ∀ v ∈ arguments, v.WellFormed := by
    simp only [arguments, List.forall_mem_cons, List.not_mem_nil, false_implies, implies_true,
      and_true]
    exact ⟨.of_simple (by decide), .of_simple (by decide), .inRef (.of_simple (by decide)),
      .of_simple (by decide)⟩
  have hStart : Dict.ofArguments arguments =
      .ok [(.float .nan, .int 1), (.text "a", .int 2)] := by
    simp [arguments, ofArguments, setPairs, set, Key.ofValue, Value.boxed, Value.dereference,
      Entries.insert, Except.map, bind, Except.bind]
    rfl
  have hMade : Made [(.float .nan, .int 1), (.text "a", .int 2)] := .ofArguments hArguments hStart
  exact ⟨_, hStart, hMade, finite_map.2 _ hMade edits, rfl⟩

end Dict

end BotScript
