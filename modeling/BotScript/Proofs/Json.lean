import BotScript.Builtin
import BotScript.Proofs.Containers.KeyOrder
import BotScript.Proofs.Containers.KeyText

/-! The objects in the text that `json` gives.  They are the maps inside the value, entry for entry,
with the texts of the keys as names.  So a name stands twice in an object just if two keys of the
map have the same text, and `Key.Alike` lists which keys do. -/

namespace BotScript

namespace Json

mutual

/-- The objects of a document at every depth, each given by its members, in the order in which they
begin. -/
def objects : Json → List (List (String × Json))
  | null => []
  | bool _ => []
  | number _ => []
  | text _ => []
  | array items => objectsOfItems items
  | object members => members :: objectsOfMembers members

def objectsOfItems : List Json → List (List (String × Json))
  | [] => []
  | j :: js => j.objects ++ objectsOfItems js

def objectsOfMembers : List (String × Json) → List (List (String × Json))
  | [] => []
  | (_, j) :: members => j.objects ++ objectsOfMembers members

end

theorem objectsOfItems_eq (items : List Json) : objectsOfItems items = items.flatMap objects := by
  induction items with
  | nil => rfl
  | cons j js ih => rw [objectsOfItems, ih, List.flatMap_cons]

theorem objectsOfMembers_eq (members : List (String × Json)) :
    objectsOfMembers members = members.flatMap fun m => m.2.objects := by
  induction members with
  | nil => rfl
  | cons m members ih => rw [objectsOfMembers, ih, List.flatMap_cons]

/-- No name stands twice among the members of an object. -/
def Unambiguous (members : List (String × Json)) : Prop := (members.map (·.1)).Nodup

end Json

namespace Value

/-! ### Maps and objects -/

mutual

/-- The maps inside a value at every depth, in the order in which they are printed. -/
def maps : Value → List Value
  | null => []
  | bool _ => []
  | int _ => []
  | float _ => []
  | text _ => []
  | duration _ => []
  | instant _ => []
  | list items => mapsOfItems items
  | dict entries => dict entries :: mapsOfEntries entries
  | textDict entries => textDict entries :: mapsOfNamed entries
  | ref none => []
  | ref (some v) => v.maps
  | object _ => []

def mapsOfItems : List Value → List Value
  | [] => []
  | v :: vs => v.maps ++ mapsOfItems vs

def mapsOfEntries : List (Key × Value) → List Value
  | [] => []
  | (_, v) :: entries => v.maps ++ mapsOfEntries entries

def mapsOfNamed : List (String × Value) → List Value
  | [] => []
  | (_, v) :: entries => v.maps ++ mapsOfNamed entries

end

/-- The entries of a map under the texts of their keys. -/
def namedEntries : Value → List (String × Value)
  | dict entries => entries.map fun e => (e.1.print, e.2)
  | textDict entries => entries
  | _ => []

/-- What a map becomes in a document. -/
def members (m : Value) : List (String × Json) := m.namedEntries.map fun e => (e.1, e.2.toJson)

theorem itemsToJson_eq (items : List Value) : itemsToJson items = items.map toJson := by
  induction items with
  | nil => rfl
  | cons v vs ih => rw [itemsToJson, ih, List.map_cons]

theorem entriesToJson_eq (entries : Dict) : entriesToJson entries = (dict entries).members := by
  induction entries with
  | nil => rfl
  | cons e entries ih =>
    rw [entriesToJson, ih]
    rfl

theorem namedToJson_eq (entries : TextDict) : namedToJson entries = (textDict entries).members := by
  induction entries with
  | nil => rfl
  | cons e entries ih =>
    rw [namedToJson, ih]
    rfl

theorem mapsOfItems_eq (items : List Value) : mapsOfItems items = items.flatMap maps := by
  induction items with
  | nil => rfl
  | cons v vs ih => rw [mapsOfItems, ih, List.flatMap_cons]

theorem mapsOfEntries_eq (entries : Dict) :
    mapsOfEntries entries = entries.flatMap fun e => e.2.maps := by
  induction entries with
  | nil => rfl
  | cons e entries ih => rw [mapsOfEntries, ih, List.flatMap_cons]

theorem mapsOfNamed_eq (entries : TextDict) :
    mapsOfNamed entries = entries.flatMap fun e => e.2.maps := by
  induction entries with
  | nil => rfl
  | cons e entries ih => rw [mapsOfNamed, ih, List.flatMap_cons]

/-- The objects of a value's document are its maps. -/
theorem objects_toJson (v : Value) : v.toJson.objects = v.maps.map members := by
  induction v using byParts with
  | simple v hSimple => cases v <;> simp_all [kind, toJson, Json.objects, maps]
  | list items ih =>
    rw [toJson, itemsToJson_eq, Json.objects, Json.objectsOfItems_eq, maps, mapsOfItems_eq,
      List.flatMap_map, List.map_flatMap]
    exact List.flatMap_congr ih
  | dict entries ih =>
    rw [toJson, entriesToJson_eq, Json.objects, Json.objectsOfMembers_eq, maps, mapsOfEntries_eq,
      List.map_cons, List.map_flatMap, members, namedEntries, List.flatMap_map, List.flatMap_map]
    exact congrArg _ (List.flatMap_congr ih)
  | textDict entries ih =>
    rw [toJson, namedToJson_eq, Json.objects, Json.objectsOfMembers_eq, maps, mapsOfNamed_eq,
      List.map_cons, List.map_flatMap, members, namedEntries, List.flatMap_map]
    exact congrArg _ (List.flatMap_congr ih)
  | empty => rfl
  | wrapper v ih => exact ih

theorem mem_maps_iff {v m : Value} :
    m ∈ v.maps ↔ m.kind = .map ∧ ∃ level, Safety.Place .all v level m := by
  constructor
  · intro h
    induction v using byParts with
    | simple v hSimple => cases v <;> simp_all [kind, maps]
    | list items ih =>
      rw [maps, mapsOfItems_eq, List.mem_flatMap] at h
      obtain ⟨v, hv, hm⟩ := h
      obtain ⟨hKind, level, hPlace⟩ := ih v hv hm
      exact ⟨hKind, level, .inList rfl hv hPlace⟩
    | dict entries ih =>
      rw [maps, mapsOfEntries_eq, List.mem_cons, List.mem_flatMap] at h
      obtain rfl | ⟨e, he, hm⟩ := h
      · exact ⟨rfl, 0, .here _⟩
      · obtain ⟨hKind, level, hPlace⟩ := ih e he hm
        exact ⟨hKind, level + 1, .inDict rfl he hPlace⟩
    | textDict entries ih =>
      rw [maps, mapsOfNamed_eq, List.mem_cons, List.mem_flatMap] at h
      obtain rfl | ⟨e, he, hm⟩ := h
      · exact ⟨rfl, 0, .here _⟩
      · obtain ⟨hKind, level, hPlace⟩ := ih e he hm
        exact ⟨hKind, level + 1, .inTextDict rfl he hPlace⟩
    | empty => simp [maps] at h
    | wrapper v ih =>
      obtain ⟨hKind, level, hPlace⟩ := ih h
      exact ⟨hKind, level, .inRef hPlace⟩
  · rintro ⟨hKind, level, hPlace⟩
    induction hPlace with
    | here v => cases v <;> simp_all [kind, maps]
    | inRef _ ih => exact ih hKind
    | inList _ hMem _ ih =>
      rw [maps, mapsOfItems_eq]
      exact List.mem_flatMap.mpr ⟨_, hMem, ih hKind⟩
    | inDict _ hMem _ ih =>
      rw [maps, mapsOfEntries_eq]
      exact List.mem_cons_of_mem _ (List.mem_flatMap.mpr ⟨_, hMem, ih hKind⟩)
    | inTextDict _ hMem _ ih =>
      rw [maps, mapsOfNamed_eq]
      exact List.mem_cons_of_mem _ (List.mem_flatMap.mpr ⟨_, hMem, ih hKind⟩)

/-! ### Names -/

theorem names_members (m : Value) : m.members.map (·.1) = m.namedEntries.map (·.1) := by
  rw [members, List.map_map]
  rfl

theorem unambiguous_dict_iff (d : Dict) :
    Json.Unambiguous (dict d).members ↔ d.Pairwise fun e f => ¬e.1.Alike f.1 := by
  rw [Json.Unambiguous, names_members, namedEntries, List.map_map, List.Nodup, List.pairwise_map]
  simp only [Function.comp_apply, ne_eq, Key.print_eq_iff]

theorem unambiguous_textDict {d : TextDict} (h : Entries.Ascending d) :
    Json.Unambiguous (textDict d).members := by
  rw [Json.Unambiguous, names_members, namedEntries, List.Nodup, List.pairwise_map]
  exact h.imp fun hLess hSame => by simp [hSame] at hLess

end Value

namespace Builtin

/-- `json` loses no entry of a map: its text is that of a document whose objects are the maps inside
the value, with a member for every entry.  The names of an object are different for every map from
texts, and for another map just if no two of its keys are alike. -/
theorem json_members (engine : Engine) (arguments : List Value)
    (h : (argument arguments 0).WellFormed) :
    let v := argument arguments 0
    json.run engine arguments = pure (.text
      (if (argument arguments 1).isTruthy then v.toJson.pretty else v.toJson.compact)) ∧
    v.toJson.objects = v.maps.map Value.members ∧
    (∀ m, m ∈ v.maps ↔ m.kind = .map ∧ ∃ level, Safety.Place .all v level m) ∧
    (∀ d, .textDict d ∈ v.maps → Json.Unambiguous (Value.textDict d).members) ∧
    ∀ d, .dict d ∈ v.maps →
      (Json.Unambiguous (Value.dict d).members ↔ d.Pairwise fun e f => ¬e.1.Alike f.1) := by
  refine ⟨rfl, Value.objects_toJson _, fun m => Value.mem_maps_iff, fun d hd => ?_,
    fun d _ => Value.unambiguous_dict_iff d⟩
  obtain ⟨-, level, hPlace⟩ := Value.mem_maps_iff.mp hd
  exact Value.unambiguous_textDict (h.textDict level d hPlace)

/-- A map below a map, where an integer and a float that shows another integer are told apart. -/
theorem json_members_of_nested :
    let inner : TextDict := [("a", .null), ("b", .bool true)]
    let outer : Dict := [(.int 2, .list [.textDict inner]), (.float .one, .null)]
    (Value.dict outer).WellFormed ∧
      ∀ engine, json.run engine [.dict outer] = pure (.text
        "\x7b\"2\":[\x7b\"a\":null,\"b\":true\x7d],\"1\":null\x7d") ∧
      (Value.dict outer).toJson.objects =
        [(Value.dict outer).members, (Value.textDict inner).members] ∧
      Json.Unambiguous (Value.dict outer).members ∧
      Json.Unambiguous (Value.textDict inner).members := by
  intro inner outer
  have hInner : (Value.textDict inner).WellFormed := by
    refine .inTextDict (by unfold Entries.Ascending; decide) ?_
    simp only [inner, List.forall_mem_cons, List.not_mem_nil, false_implies, implies_true, and_true]
    exact ⟨.of_simple (by decide), .of_simple (by decide)⟩
  have hOuter : (Value.dict outer).WellFormed := by
    refine .inDict (by unfold Entries.Ascending; decide) ?_
    simp only [outer, List.forall_mem_cons, List.not_mem_nil, false_implies, implies_true, and_true]
    exact ⟨.inList fun v hv => List.mem_singleton.mp hv ▸ hInner, .of_simple (by decide)⟩
  have hText : (Value.dict outer).toJson.compact =
      "\x7b\"2\":[\x7b\"a\":null,\"b\":true\x7d],\"1\":null\x7d" := by decide
  have hDistinct : outer.Pairwise fun e f => ¬e.1.Alike f.1 := by
    simp only [outer, List.pairwise_pair, ← Key.print_eq_iff]
    decide
  refine ⟨hOuter, fun engine => ?_⟩
  obtain ⟨hRun, hObjects, -, hNamed, hDict⟩ := json_members engine [.dict outer] hOuter
  exact ⟨hText ▸ hRun, hObjects, (hDict outer List.mem_cons_self).mpr hDistinct,
    hNamed inner (List.mem_cons_of_mem _ List.mem_cons_self)⟩

/-- An integer and its text are two keys with one name. -/
theorem json_repeats_name :
    let v : Value := .dict [(.int 1, .text "a"), (.text "1", .text "b")]
    v.WellFormed ∧
      (∀ engine, json.run engine [v] = pure (.text "\x7b\"1\":\"a\",\"1\":\"b\"\x7d")) ∧
      ∃ members ∈ v.toJson.objects, ¬Json.Unambiguous members := by
  intro v
  have hText : v.toJson.compact = "\x7b\"1\":\"a\",\"1\":\"b\"\x7d" := by decide
  refine ⟨.inDict (by unfold Entries.Ascending; decide) ?_, fun _ => ?_, v.members, ?_, ?_⟩
  · simp only [List.forall_mem_cons, List.not_mem_nil, false_implies, implies_true, and_true]
    exact ⟨.of_simple (by decide), .of_simple (by decide)⟩
  · exact hText ▸ rfl
  · rw [Value.objects_toJson]
    exact List.mem_map_of_mem List.mem_cons_self
  · rw [Value.unambiguous_dict_iff]
    intro hDistinct
    exact (List.pairwise_cons.mp hDistinct).1 _ List.mem_cons_self (.symm (.spelled (.int 1)))

end Builtin

end BotScript
