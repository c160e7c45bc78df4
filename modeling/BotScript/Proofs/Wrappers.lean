import BotScript.Proofs.Json
import BotScript.Proofs.Safety

/-! Values without their wrappers.  `stripped` takes the wrappers off at every depth, and what a
script can print or convert a value to does not tell the two apart: texts and documents go through
wrappers as they go down, and a conversion looks no deeper than at what is inside the outermost
ones, of which it sees the scalar or whether the list or map is empty. -/

namespace BotScript

namespace Value

mutual

/-- A value without wrappers at any depth.  What an empty wrapper leaves is null. -/
def stripped : Value → Value
  | null => null
  | bool b => bool b
  | int n => int n
  | float x => float x
  | text s => text s
  | duration d => duration d
  | instant t => instant t
  | list items => list (strippedItems items)
  | dict entries => dict (strippedEntries entries)
  | textDict entries => textDict (strippedNamed entries)
  | ref none => null
  | ref (some v) => v.stripped
  | object o => object o

def strippedItems : List Value → List Value
  | [] => []
  | v :: vs => v.stripped :: strippedItems vs

def strippedEntries : List (Key × Value) → List (Key × Value)
  | [] => []
  | (k, v) :: entries => (k, v.stripped) :: strippedEntries entries

def strippedNamed : List (String × Value) → List (String × Value)
  | [] => []
  | (k, v) :: entries => (k, v.stripped) :: strippedNamed entries

end

/-- A value in which no wrapper is left, at any depth. -/
def Unwrapped (v : Value) : Prop := ∀ level u, Safety.Place .all v level u → u.kind ≠ .ref

/-- An entry whose value has no wrappers. -/
def strippedEntry {κ : Type} (e : κ × Value) : κ × Value := (e.1, e.2.stripped)

theorem strippedItems_eq (items : List Value) : strippedItems items = items.map stripped := by
  induction items with
  | nil => rfl
  | cons v vs ih => rw [strippedItems, ih, List.map_cons]

theorem strippedEntries_eq (entries : Dict) :
    strippedEntries entries = entries.map strippedEntry := by
  induction entries with
  | nil => rfl
  | cons e entries ih =>
    rw [strippedEntries, ih]
    rfl

theorem strippedNamed_eq (entries : TextDict) :
    strippedNamed entries = entries.map strippedEntry := by
  induction entries with
  | nil => rfl
  | cons e entries ih =>
    rw [strippedNamed, ih]
    rfl

theorem stripped_list (items : List Value) :
    (list items).stripped = list (items.map stripped) := by
  rw [stripped, strippedItems_eq]

theorem stripped_dict (entries : Dict) :
    (dict entries).stripped = dict (entries.map strippedEntry) := by
  rw [stripped, strippedEntries_eq]

theorem stripped_textDict (entries : TextDict) :
    (textDict entries).stripped = textDict (entries.map strippedEntry) := by
  rw [stripped, strippedNamed_eq]

theorem stripped_of_simple {v : Value} (h : v.kind ∉ [Kind.list, .map, .ref]) : v.stripped = v := by
  cases v <;> simp_all [kind, stripped]

/-! ### No wrapper is left -/

theorem unwrapped_stripped (v : Value) : v.stripped.Unwrapped := by
  induction v using byParts with
  | simple v hSimple =>
    rw [stripped_of_simple hSimple]
    intro level u hPlace
    cases hPlace with
    | here => simp_all
    | inRef | inList | inDict | inTextDict => simp [kind] at hSimple
  | list items ih =>
    rw [stripped_list]
    intro level u hPlace
    cases hPlace with
    | here => simp [kind]
    | inList _ hMem hInside =>
      obtain ⟨v, hv, rfl⟩ := List.mem_map.mp hMem
      exact ih v hv level u hInside
  | dict entries ih =>
    rw [stripped_dict]
    intro level u hPlace
    cases hPlace with
    | here => simp [kind]
    | inDict _ hMem hInside =>
      obtain ⟨e, he, rfl⟩ := List.mem_map.mp hMem
      exact ih e he _ u hInside
  | textDict entries ih =>
    rw [stripped_textDict]
    intro level u hPlace
    cases hPlace with
    | here => simp [kind]
    | inTextDict _ hMem hInside =>
      obtain ⟨e, he, rfl⟩ := List.mem_map.mp hMem
      exact ih e he _ u hInside
  | empty =>
    intro level u hPlace
    cases hPlace with
    | here => simp [stripped, kind]
  | wrapper v ih => exact ih

/-- A value that has no wrappers stays as it is. -/
theorem stripped_of_unwrapped {v : Value} (h : v.Unwrapped) : v.stripped = v := by
  induction v using byParts with
  | simple v hSimple => exact stripped_of_simple hSimple
  | list items ih =>
    rw [stripped_list]
    have hItems : ∀ v ∈ items, v.stripped = v :=
      fun v hv => ih v hv fun level u hPlace => h level u (.inList rfl hv hPlace)
    rw [List.map_congr_left hItems, List.map_id']
  | dict entries ih =>
    rw [stripped_dict]
    have hEntries : ∀ e ∈ entries, strippedEntry e = e := fun e he =>
      congrArg (Prod.mk e.1) (ih e he fun level u hPlace => h _ u (.inDict rfl he hPlace))
    rw [List.map_congr_left hEntries, List.map_id']
  | textDict entries ih =>
    rw [stripped_textDict]
    have hEntries : ∀ e ∈ entries, strippedEntry e = e := fun e he =>
      congrArg (Prod.mk e.1) (ih e he fun level u hPlace => h _ u (.inTextDict rfl he hPlace))
    rw [List.map_congr_left hEntries, List.map_id']
  | empty => exact absurd rfl (h 0 _ (.here _))
  | wrapper v _ => exact absurd rfl (h 0 _ (.here _))

/-! ### Texts and documents -/

theorem printAll_eq (items : List Value) : printAll items = items.map print := by
  induction items with
  | nil => rfl
  | cons v vs ih => rw [printAll, ih, List.map_cons]

theorem printEntries_eq (entries : Dict) :
    printEntries entries = entries.map fun e => e.1.print ++ ":" ++ e.2.print := by
  induction entries with
  | nil => rfl
  | cons e entries ih =>
    rw [printEntries, ih]
    rfl

theorem printNamed_eq (entries : TextDict) :
    printNamed entries = entries.map fun e => e.1 ++ ":" ++ e.2.print := by
  induction entries with
  | nil => rfl
  | cons e entries ih =>
    rw [printNamed, ih]
    rfl

theorem print_stripped (v : Value) : v.stripped.print = v.print := by
  induction v using byParts with
  | simple v hSimple => rw [stripped_of_simple hSimple]
  | list items ih =>
    rw [stripped_list, print, print, printAll_eq, printAll_eq, List.map_map]
    congr 3
    exact List.map_congr_left ih
  | dict entries ih =>
    rw [stripped_dict, print, print, printEntries_eq, printEntries_eq, List.map_map]
    congr 3
    refine List.map_congr_left fun e he => ?_
    simp only [Function.comp_apply, strippedEntry, ih e he]
  | textDict entries ih =>
    rw [stripped_textDict, print, print, printNamed_eq, printNamed_eq, List.map_map]
    congr 3
    refine List.map_congr_left fun e he => ?_
    simp only [Function.comp_apply, strippedEntry, ih e he]
  | empty => rfl
  | wrapper v ih => exact ih

theorem toJson_stripped (v : Value) : v.stripped.toJson = v.toJson := by
  induction v using byParts with
  | simple v hSimple => rw [stripped_of_simple hSimple]
  | list items ih =>
    rw [stripped_list, toJson, toJson, itemsToJson_eq, itemsToJson_eq, List.map_map]
    congr 1
    exact List.map_congr_left ih
  | dict entries ih =>
    rw [stripped_dict, toJson, toJson, entriesToJson_eq, entriesToJson_eq]
    simp only [members, namedEntries, List.map_map]
    congr 1
    refine List.map_congr_left fun e he => ?_
    simp only [Function.comp_apply, strippedEntry, ih e he]
  | textDict entries ih =>
    rw [stripped_textDict, toJson, toJson, namedToJson_eq, namedToJson_eq]
    simp only [members, namedEntries, List.map_map]
    congr 1
    refine List.map_congr_left fun e he => ?_
    simp only [Function.comp_apply, strippedEntry, ih e he]
  | empty => rfl
  | wrapper v ih => exact ih

/-! ### Conversions -/

/-- What is inside the outermost wrappers of a value and of the value without any: nothing, the same
scalar or object, or two lists or maps, one with wrappers below and one without. -/
inductive SameInside (v : Value) : Prop
  | nil (hBare : v.stripped.dereference = none) (hInside : v.dereference = none)
  | simple {u : Value} (hBare : v.stripped.dereference = some u) (hInside : v.dereference = some u)
  | list {items : List Value} (hBare : v.stripped.dereference = some (.list (items.map stripped)))
      (hInside : v.dereference = some (.list items))
  | dict {entries : Dict}
      (hBare : v.stripped.dereference = some (.dict (entries.map strippedEntry)))
      (hInside : v.dereference = some (.dict entries))
  | textDict {entries : TextDict}
      (hBare : v.stripped.dereference = some (.textDict (entries.map strippedEntry)))
      (hInside : v.dereference = some (.textDict entries))

theorem sameInside (v : Value) : SameInside v := by
  induction v using byParts with
  | simple v hSimple =>
    have hBare := congrArg dereference (stripped_of_simple hSimple)
    rcases hInside : v.dereference with _ | u
    · exact .nil (hBare.trans hInside) hInside
    · exact .simple (hBare.trans hInside) hInside
  | list items => exact .list (congrArg dereference (stripped_list items)) rfl
  | dict entries => exact .dict (congrArg dereference (stripped_dict entries)) rfl
  | textDict entries => exact .textDict (congrArg dereference (stripped_textDict entries)) rfl
  | empty => exact .nil rfl rfl
  | wrapper v ih =>
    cases ih with
    | nil hBare hInside => exact .nil hBare hInside
    | simple hBare hInside => exact .simple hBare hInside
    | list hBare hInside => exact .list hBare hInside
    | dict hBare hInside => exact .dict hBare hInside
    | textDict hBare hInside => exact .textDict hBare hInside

section Conversions

variable (v : Value)

theorem toInt_stripped : v.stripped.toInt = v.toInt := by
  unfold toInt
  cases sameInside v <;> simp only [*]

theorem toFloat_stripped : v.stripped.toFloat = v.toFloat := by
  unfold toFloat
  cases sameInside v <;> simp only [*]

theorem toText_stripped : v.stripped.toText = v.toText := by
  unfold toText
  cases sameInside v <;> simp only [*, scalarText]

theorem toDuration_stripped : v.stripped.toDuration = v.toDuration := by
  unfold toDuration
  cases sameInside v <;> simp only [*]

theorem numberOrText_stripped : v.stripped.numberOrText = v.numberOrText := by
  unfold numberOrText
  cases sameInside v <;> simp only [*]

theorem toHexInt_stripped : v.stripped.toHexInt = v.toHexInt := by
  unfold toHexInt
  cases sameInside v <;> simp only [*] <;> rfl

theorem hexToDecimal_stripped : v.stripped.hexToDecimal = v.hexToDecimal := by
  unfold hexToDecimal
  rw [toText_stripped]
  cases sameInside v <;> simp only [*]

theorem kindInside_stripped : v.stripped.kindInside = v.kindInside := by
  unfold kindInside
  cases sameInside v <;> simp only [*, kind]

theorem isTruthy_stripped : v.stripped.isTruthy = v.isTruthy := by
  unfold isTruthy
  cases sameInside v <;> simp only [*, List.isEmpty_map]

theorem isNil_stripped : v.stripped.isNil = v.isNil := by
  unfold isNil
  cases sameInside v <;> simp only [*, Option.isNone_some]

end Conversions

/-- Wrappers do not show.  A value and the value without wrappers at any depth have the same text
and the same document, in both layouts, convert to the same integer, float, text, duration,
characters, bytes and digest, to the same number or mistake where texts are hexadecimal, and are of
the same kind inside, truthy and nil at once. -/
theorem wrappers_do_not_show (v : Value) :
    v.stripped.Unwrapped ∧
    v.stripped.print = v.print ∧
    v.stripped.toJson.compact = v.toJson.compact ∧
    v.stripped.toJson.pretty = v.toJson.pretty ∧
    v.stripped.toInt = v.toInt ∧
    v.stripped.toFloat = v.toFloat ∧
    v.stripped.toText = v.toText ∧
    v.stripped.toDuration = v.toDuration ∧
    v.stripped.toChars = v.toChars ∧
    v.stripped.toBytes = v.toBytes ∧
    v.stripped.toHexInt = v.toHexInt ∧
    v.stripped.toSha256 = v.toSha256 ∧
    v.stripped.hexToDecimal = v.hexToDecimal ∧
    v.stripped.kindInside = v.kindInside ∧
    v.stripped.isTruthy = v.isTruthy ∧
    v.stripped.isNil = v.isNil := by
  have hBytes : v.stripped.toBytes = v.toBytes := by rw [toBytes, numberOrText_stripped, toBytes]
  refine ⟨unwrapped_stripped v, print_stripped v, ?_, ?_, toInt_stripped v, toFloat_stripped v,
    toText_stripped v, toDuration_stripped v, ?_, hBytes, toHexInt_stripped v, ?_,
    hexToDecimal_stripped v, kindInside_stripped v, isTruthy_stripped v, isNil_stripped v⟩
  · rw [toJson_stripped]
  · rw [toJson_stripped]
  · rw [toChars, numberOrText_stripped, toChars]
  · rw [toSha256, hBytes, toSha256]

/-- Wrappers around a list, one of its items and an entry of a map in it. -/
example : (ref (some (list [ref (some (int 1)), dict [(.int 2, ref none)]]))).stripped =
    list [int 1, dict [(.int 2, null)]] := rfl

end Value

end BotScript
