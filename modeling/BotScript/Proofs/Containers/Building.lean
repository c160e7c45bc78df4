import BotScript.Proofs.Containers.DictHistory
import BotScript.Proofs.FlatEntries

/-! The two ways to build a map, with keys of any kind and with texts alone.  They take the same
arguments as long as all keys are texts, give the same entries, and undo each other:
`builders_agree`. -/

namespace BotScript

namespace Entries

variable {κ ι α : Type} [Ord κ] [Ord ι]

/-- Entries under other keys. -/
def rekey (f : ι → κ) (entries : List (ι × α)) : List (κ × α) :=
  entries.map fun e => (f e.1, e.2)

variable {f : ι → κ}

theorem rekey_insert (hOrder : ∀ i j, compare (f i) (f j) = compare i j) (key : ι) (value : α)
    (entries : List (ι × α)) :
    rekey f (insert key value entries) = insert (f key) value (rekey f entries) := by
  induction entries with
  | nil => rfl
  | cons e rest ih =>
    simp only [rekey, List.map_cons, insert, hOrder] at ih ⊢
    cases compare key e.1 with
    | lt => rfl
    | eq => rfl
    | gt => simp only [List.map_cons, ih]

theorem rekey_ofList (hOrder : ∀ i j, compare (f i) (f j) = compare i j)
    (entries : List (ι × α)) : rekey f (ofList entries) = ofList (rekey f entries) := by
  induction entries using List.reverseRecOn with
  | nil => rfl
  | append_singleton rest e ih =>
    simp only [ofList, rekey, List.foldl_append, List.map_append, List.foldl_cons, List.foldl_nil,
      List.map_cons, List.map_nil] at ih ⊢
    rw [← ih]
    exact rekey_insert hOrder e.1 e.2 _

end Entries

/-- A key that is a text. -/
def Key.IsText (k : Key) : Prop := ∃ s, k = .text s

/-- All keys of a flat list of keys and values can be keys. -/
def UsableKeys (arguments : List Value) : Prop :=
  ∀ i key, arguments[2 * i]? = some key → key.kindInside ∉ Key.keylessKinds

/-- The keys and values of a flat list.  What is no key, and a key without a value, is left out. -/
def keyedValues : List Value → List (Key × Value)
  | key :: value :: rest => ((Key.ofValue key).toOption.map (·, value)).toList ++ keyedValues rest
  | _ => []

theorem usableKeys_nil : UsableKeys [] := by
  intro i key hKey
  simp at hKey

theorem usableKeys_cons {key value : Value} {rest : List Value} :
    UsableKeys (key :: value :: rest) ↔ (∃ k, Key.ofValue key = .ok k) ∧ UsableKeys rest := by
  have hUsable : (∃ k, Key.ofValue key = .ok k) ↔ key.kindInside ∉ Key.keylessKinds := by
    rw [← Key.ofValue_eq_error_iff]
    cases Key.ofValue key <;> simp
  rw [hUsable]
  constructor
  · intro h
    refine ⟨h 0 key rfl, fun i other hOther => h (i + 1) other ?_⟩
    simpa [Nat.mul_add] using hOther
  · rintro ⟨hKey, hRest⟩ i other hOther
    cases i with
    | zero => exact Option.some.inj hOther ▸ hKey
    | succ i => exact hRest i other (by simpa [Nat.mul_add] using hOther)

theorem length_mod_two_cons (key value : Value) (rest : List Value) :
    (key :: value :: rest).length % 2 = rest.length % 2 := by
  simp only [List.length_cons]
  omega

namespace Dict

variable {arguments : List Value} {d made : Dict}

/-- Keys and values are set in turn if there is a value for every key and every key can be one. -/
theorem setPairs_eq_ok_iff : setPairs d arguments = .ok made ↔
    arguments.length % 2 = 0 ∧ UsableKeys arguments ∧
      made = (keyedValues arguments).foldl (fun es e => Entries.insert e.1 e.2 es) d := by
  fun_induction setPairs d arguments with
  | case1 d key value rest ih =>
    rw [usableKeys_cons, keyedValues, length_mod_two_cons]
    cases hKey : Key.ofValue key with
    | ok k =>
      have hStep : d.set key value = .ok (Entries.insert k value d) := by
        simp only [set, hKey, Except.map]
      rw [hStep]
      show setPairs _ rest = _ ↔ _
      rw [ih]
      simp [Except.toOption]
    | error m =>
      have hStep : d.set key value = .error m := by simp only [set, hKey, Except.map]
      rw [hStep]
      simp [bind, Except.bind]
  | case2 d => simp [usableKeys_nil, keyedValues, eq_comm]
  | case3 => simp

/-- A list of several arguments or none gives a map if it has a value for every key and every key
can be one, and then each key has the value that it is given last. -/
theorem ofArguments_eq_ok_iff (hFlat : arguments.length ≠ 1) : ofArguments arguments = .ok made ↔
    arguments.length % 2 = 0 ∧ UsableKeys arguments ∧
      made = Entries.ofList (keyedValues arguments) := by
  unfold ofArguments
  split
  · exact absurd rfl hFlat
  · split
    · exact setPairs_eq_ok_iff
    · rename_i hOdd
      exact iff_of_false nofun fun h => hOdd h.1

theorem ofArguments_single (single : Value) : ofArguments [single] =
    match single.dereference with
    | some (.dict d) => .ok d
    | some (.textDict m) => .ok (ofTextDict m)
    | other => .error (notACollection other) := rfl

theorem ofArguments_wrapped_textDict (n : Nat) (m : TextDict) :
    ofArguments [.wrapped n (.textDict m)] = .ok (ofTextDict m) := by
  rw [ofArguments_single, Value.dereference_wrapped]
  rfl

end Dict

namespace TextDict

variable {arguments : List Value} {d made : TextDict}

theorem textNames_of_setPairs (h : setPairs d arguments = .ok made) :
    arguments.length % 2 = 0 ∧ TextNames arguments := by
  fun_induction setPairs d arguments with
  | case1 d key value rest s hText ih =>
    obtain ⟨hEven, hRest⟩ := ih h
    rw [length_mod_two_cons]
    exact ⟨hEven, textNames_cons.mpr ⟨by simp [asText?_eq_some_iff.mpr hText], hRest⟩⟩
  | case2 => exact nomatch h
  | case3 => exact ⟨rfl, textNames_nil⟩
  | case4 => exact nomatch h

theorem ofArguments_eq_ok_iff (hFlat : arguments.length ≠ 1) : ofArguments arguments = .ok made ↔
    arguments.length % 2 = 0 ∧ TextNames arguments ∧
      made = Entries.ofList (namedValues arguments) := by
  constructor
  · intro h
    have hPairs : setPairs [] arguments = .ok made := by
      unfold ofArguments at h
      split at h
      · exact absurd rfl hFlat
      · split at h
        · exact h
        · exact nomatch h
    obtain ⟨hEven, hNames⟩ := textNames_of_setPairs hPairs
    rw [ofArguments_of_even hNames hEven] at h
    exact ⟨hEven, hNames, (Except.ok.inj h).symm⟩
  · rintro ⟨hEven, hNames, rfl⟩
    exact ofArguments_of_even hNames hEven

theorem ofArguments_single (single : Value) : ofArguments [single] =
    match single.dereference with
    | some (.textDict m) => .ok m
    | some (.dict d) => ofDict d
    | other => .error (notACollection other) := rfl

theorem ofArguments_wrapped_dict (n : Nat) (d : Dict) :
    ofArguments [.wrapped n (.dict d)] = ofDict d := by
  rw [ofArguments_single, Value.dereference_wrapped]
  rfl

theorem ofDict_ofTextDict (m : TextDict) : ofDict (Dict.ofTextDict m) = .ok m := by
  induction m with
  | nil => rfl
  | cons e rest ih =>
    show (ofDict (Dict.ofTextDict rest)).map ((e.1, e.2) :: ·) = _
    rw [ih]
    rfl

theorem eq_ofTextDict_of_ofDict {d : Dict} {m : TextDict} (h : ofDict d = .ok m) :
    d = Dict.ofTextDict m := by
  fun_induction ofDict d generalizing m with
  | case1 =>
    cases h
    rfl
  | case2 s v rest ih =>
    cases hRest : ofDict rest with
    | ok n =>
      rw [hRest] at h
      cases h
      rw [ih hRest]
      rfl
    | error e =>
      rw [hRest] at h
      exact nomatch h
  | case3 => exact nomatch h

end TextDict

/-! ### The two builders together -/

theorem Dict.exists_eq_ofTextDict {d : Dict} (h : ∀ e ∈ d, e.1.IsText) :
    ∃ m, d = Dict.ofTextDict m := by
  induction d with
  | nil => exact ⟨[], rfl⟩
  | cons e rest ih =>
    obtain ⟨⟨s, hText⟩, hRest⟩ := List.forall_mem_cons.mp h
    obtain ⟨m, rfl⟩ := ih hRest
    exact ⟨(s, e.2) :: m, by simp [ofTextDict, ← hText]⟩

section Agreement

variable {arguments : List Value}

theorem ofValue_eq_text_iff {v : Value} {s : String} :
    Key.ofValue v = .ok (.text s) ↔ v.asText? = some s := by
  rw [asText?_eq_some_iff, Key.ofValue]
  split <;> simp_all

theorem usableKeys_of_textNames (h : TextNames arguments) : UsableKeys arguments := by
  intro i key hKey hKeyless
  obtain ⟨s, hText⟩ := Option.isSome_iff_exists.mp (h i key hKey)
  obtain ⟨m, hError⟩ := (Key.ofValue_eq_error_iff key).mpr hKeyless
  rw [ofValue_eq_text_iff.mpr hText] at hError
  exact nomatch hError

theorem keyedValues_of_textNames (h : TextNames arguments) :
    keyedValues arguments = Entries.rekey .text (namedValues arguments) := by
  induction arguments using namedValues.induct with
  | case1 name value rest ih =>
    obtain ⟨hName, hRest⟩ := textNames_cons.mp h
    obtain ⟨s, hText⟩ := Option.isSome_iff_exists.mp hName
    simp [keyedValues, namedValues, hText, ofValue_eq_text_iff.mpr hText, ih hRest,
      Entries.rekey, Except.toOption]
  | case2 rest hShort =>
    cases rest with
    | nil => rfl
    | cons name rest =>
      cases rest with
      | nil => rfl
      | cons value rest => exact absurd rfl (hShort name value rest)

theorem textNames_of_keyedValues (hUsable : UsableKeys arguments)
    (hEven : arguments.length % 2 = 0)
    (h : ∀ e ∈ keyedValues arguments, e.1.IsText) : TextNames arguments := by
  induction arguments using namedValues.induct with
  | case1 name value rest ih =>
    obtain ⟨⟨k, hKey⟩, hRest⟩ := usableKeys_cons.mp hUsable
    rw [length_mod_two_cons] at hEven
    simp only [keyedValues, hKey, Except.toOption, Option.map_some, Option.toList_some,
      List.singleton_append, List.forall_mem_cons] at h
    obtain ⟨⟨s, rfl⟩, hOthers⟩ := h
    exact textNames_cons.mpr ⟨by simp [ofValue_eq_text_iff.mp hKey], ih hRest hEven hOthers⟩
  | case2 rest hShort =>
    cases rest with
    | nil => exact textNames_nil
    | cons name rest =>
      cases rest with
      | nil => simp at hEven
      | cons value rest => exact absurd rfl (hShort name value rest)

/-- What makes a map from texts makes a map with the same entries. -/
theorem Dict.ofArguments_of_texts {m : TextDict} (h : TextDict.ofArguments arguments = .ok m) :
    Dict.ofArguments arguments = .ok (Dict.ofTextDict m) := by
  by_cases hFlat : arguments.length = 1
  · obtain ⟨single, rfl⟩ := List.length_eq_one_iff.mp hFlat
    rw [TextDict.ofArguments_single] at h
    rw [Dict.ofArguments_single]
    cases hInside : single.dereference with
    | none =>
      rw [hInside] at h
      exact nomatch h
    | some inner =>
      rw [hInside] at h
      cases inner with
      | dict d => rw [TextDict.eq_ofTextDict_of_ofDict h]
      | textDict n =>
        cases h
        rfl
      | _ => exact nomatch h
  · obtain ⟨hEven, hNames, rfl⟩ := (TextDict.ofArguments_eq_ok_iff hFlat).mp h
    refine (Dict.ofArguments_eq_ok_iff hFlat).mpr ⟨hEven, usableKeys_of_textNames hNames, ?_⟩
    rw [keyedValues_of_textNames hNames]
    exact Entries.rekey_ofList (f := Key.text) (fun _ _ => rfl) _

/-- What makes a map with texts alone as keys makes a map from texts. -/
theorem TextDict.exists_ofArguments {d : Dict} (h : Dict.ofArguments arguments = .ok d)
    (hTexts : ∀ e ∈ d, e.1.IsText) : ∃ m, TextDict.ofArguments arguments = .ok m := by
  by_cases hFlat : arguments.length = 1
  · obtain ⟨single, rfl⟩ := List.length_eq_one_iff.mp hFlat
    rw [Dict.ofArguments_single] at h
    rw [TextDict.ofArguments_single]
    cases hInside : single.dereference with
    | none =>
      rw [hInside] at h
      exact nomatch h
    | some inner =>
      rw [hInside] at h
      cases inner with
      | dict e =>
        cases h
        obtain ⟨m, rfl⟩ := Dict.exists_eq_ofTextDict hTexts
        exact ⟨m, ofDict_ofTextDict m⟩
      | textDict n => exact ⟨n, rfl⟩
      | _ => exact nomatch h
  · obtain ⟨hEven, hUsable, rfl⟩ := (Dict.ofArguments_eq_ok_iff hFlat).mp h
    have hNames : TextNames arguments := by
      refine textNames_of_keyedValues hUsable hEven fun e he => ?_
      obtain ⟨value, hMem⟩ := Entries.exists_mem_ofList_iff.mpr ⟨e.2, he⟩
      exact hTexts (e.1, value) hMem
    exact ⟨_, TextDict.ofArguments_of_even hNames hEven⟩

/-- Neither builder takes an odd number of arguments, a single one apart. -/
theorem builders_refuse_odd (hSeveral : 3 ≤ arguments.length) (hOdd : arguments.length % 2 = 1) :
    Dict.ofArguments arguments = .error .oddEntries ∧
      TextDict.ofArguments arguments = .error .oddEntries := by
  unfold Dict.ofArguments TextDict.ofArguments
  match arguments, hSeveral with
  | first :: second :: rest, _ =>
    simp only [hOdd]
    exact ⟨rfl, rfl⟩

/-- Neither builder takes a single argument that is no map inside. -/
theorem builders_refuse_single {single : Value} (h : single.kindInside ≠ .map) :
    Dict.ofArguments [single] = .error (notACollection single.dereference) ∧
      TextDict.ofArguments [single] = .error (notACollection single.dereference) := by
  rw [Dict.ofArguments_single, TextDict.ofArguments_single]
  rw [Value.kindInside] at h
  cases hInside : single.dereference with
  | none => exact ⟨rfl, rfl⟩
  | some inner =>
    rw [hInside] at h
    cases inner with
    | dict d => exact absurd rfl h
    | textDict m => exact absurd rfl h
    | _ => exact ⟨rfl, rfl⟩

/-- The two builders accept the same arguments as long as all keys are texts, and then give the same
entries; each takes back what the other gives.  Of a flat list each key has the value that stands
last for it, just as it was given. -/
theorem builders_agree :
    (∀ arguments m, TextDict.ofArguments arguments = .ok m →
      Dict.ofArguments arguments = .ok (Dict.ofTextDict m)) ∧
    (∀ arguments d, Dict.ofArguments arguments = .ok d → (∀ e ∈ d, e.1.IsText) →
      ∃ m, TextDict.ofArguments arguments = .ok m) ∧
    (∀ m i j, ∃ d, Dict.ofArguments [.wrapped i (.textDict m)] = .ok d ∧
      TextDict.ofArguments [.wrapped j (.dict d)] = .ok m) ∧
    (∀ d i j, (∀ e ∈ d, e.1.IsText) →
      ∃ m, TextDict.ofArguments [.wrapped i (.dict d)] = .ok m ∧
        Dict.ofArguments [.wrapped j (.textDict m)] = .ok d) ∧
    (∀ arguments, arguments.length % 2 = 0 → UsableKeys arguments →
      ∃ d, Dict.ofArguments arguments = .ok d ∧
        ∀ k, Entries.get? k d = Entries.last? (fun l => decide (l = k)) (keyedValues arguments)) ∧
    (∀ arguments, arguments.length % 2 = 0 → TextNames arguments →
      ∃ m, TextDict.ofArguments arguments = .ok m ∧
        ∀ s, Entries.get? s m = Entries.last? (fun t => decide (t = s)) (namedValues arguments)) ∧
    (∀ arguments, 3 ≤ arguments.length → arguments.length % 2 = 1 →
      Dict.ofArguments arguments = .error .oddEntries ∧
        TextDict.ofArguments arguments = .error .oddEntries) ∧
    ∀ single, single.kindInside ≠ .map →
      Dict.ofArguments [single] = .error (notACollection single.dereference) ∧
        TextDict.ofArguments [single] = .error (notACollection single.dereference) := by
  refine ⟨fun _ _ => Dict.ofArguments_of_texts, fun _ _ => TextDict.exists_ofArguments, ?_, ?_, ?_,
    ?_, fun _ => builders_refuse_odd, fun _ => builders_refuse_single⟩
  · intro m i j
    refine ⟨Dict.ofTextDict m, Dict.ofArguments_wrapped_textDict i m, ?_⟩
    rw [TextDict.ofArguments_wrapped_dict, TextDict.ofDict_ofTextDict]
  · intro d i j hTexts
    obtain ⟨m, rfl⟩ := Dict.exists_eq_ofTextDict hTexts
    refine ⟨m, ?_, Dict.ofArguments_wrapped_textDict j m⟩
    rw [TextDict.ofArguments_wrapped_dict, TextDict.ofDict_ofTextDict]
  · intro arguments hEven hUsable
    have hFlat : arguments.length ≠ 1 := by omega
    exact ⟨_, (Dict.ofArguments_eq_ok_iff hFlat).mpr ⟨hEven, hUsable, rfl⟩,
      fun k => Entries.get?_ofList k _⟩
  · intro arguments hEven hNames
    exact ⟨_, TextDict.ofArguments_of_even hNames hEven, fun s => Entries.get?_ofList s _⟩

/-- A name that is given twice, in a list of texts and, as a number, in one of other keys. -/
theorem builders_agree_on_repeated_keys :
    let named : List Value := [.text "b", .int 1, .boxed (.text "a"), .boxed (.int 2),
      .text "b", .null]
    let numbered : List Value := [.int 1, .null, .boxed (.int 1), .boxed (.bool true)]
    let texts : Dict := [(.text "a", .boxed (.int 2)), (.text "b", .null)]
    TextDict.ofArguments named = .ok [("a", .boxed (.int 2)), ("b", .null)] ∧
      Dict.ofArguments named = .ok texts ∧
      (∃ m, TextDict.ofArguments named = .ok m) ∧
      (∃ m, TextDict.ofArguments [.wrapped 2 (.dict texts)] = .ok m ∧
        Dict.ofArguments [.wrapped 1 (.textDict m)] = .ok texts) ∧
      (∃ d, Dict.ofArguments numbered = .ok d ∧
        Entries.get? (.int 1) d = some (.boxed (.bool true))) ∧
      (∃ m, TextDict.ofArguments named = .ok m ∧ Entries.get? "b" m = some .null) ∧
      Dict.ofArguments [.text "a", .int 1, .text "b"] = .error .oddEntries ∧
      TextDict.ofArguments [.boxed (.int 5)] = .error (.notCollection .int) := by
  intro named numbered texts
  obtain ⟨hSame, hBuilt, -, hAgain, hLast, hLastNamed, hOdd, hSingle⟩ := builders_agree
  have hNamed : TextDict.ofArguments named = .ok [("a", .boxed (.int 2)), ("b", .null)] := by
    simp [named, TextDict.ofArguments, TextDict.setPairs, Value.boxed, Value.dereference,
      Entries.insert]
    rfl
  have hTexts : ∀ e ∈ texts, e.1.IsText := by simp [texts, Key.IsText]
  have hUsable : UsableKeys numbered :=
    usableKeys_cons.mpr ⟨⟨_, rfl⟩, usableKeys_cons.mpr ⟨⟨_, rfl⟩, usableKeys_nil⟩⟩
  have hNames : TextNames named := textNames_cons.mpr
    ⟨rfl, textNames_cons.mpr ⟨rfl, textNames_cons.mpr ⟨rfl, textNames_nil⟩⟩⟩
  obtain ⟨d, hNumbered, hOne⟩ := hLast numbered (by decide) hUsable
  obtain ⟨m, hGiven, hB⟩ := hLastNamed named (by decide) hNames
  have hMade : Dict.ofArguments named = .ok texts := hSame named _ hNamed
  exact ⟨hNamed, hMade, hBuilt named texts hMade hTexts, hAgain texts 2 1 hTexts,
    ⟨d, hNumbered, by rw [hOne]; rfl⟩, ⟨m, hGiven, by rw [hB]; rfl⟩,
    (hOdd _ (by decide) rfl).1, (hSingle _ (by decide)).2⟩

end Agreement

end BotScript
