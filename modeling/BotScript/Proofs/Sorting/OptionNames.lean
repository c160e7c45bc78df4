import BotScript.Proofs.FlatEntries
import BotScript.Proofs.Text.LowerCase
import BotScript.Sorting

/-! Names of sort options.  A name counts in lower case, but only after the values of its spellings
have been collected one by one: what decides is the last value of the spelling that comes last in
the order of texts, and a value that is refused counts under every spelling. -/

namespace BotScript

namespace SortOptions

/-! ### One option -/

/-- What an option comes to when it is the only one.  The name is in lower case. -/
def meaning? (name : String) (value : Value) : Option SortOptions :=
  (default.set name value).toOption

/-- The options that are as in `o` for one name and as by default for the others. -/
def part (o : SortOptions) (name : String) : SortOptions :=
  if name = "key" then { default with key := o.key }
  else if name = "reverse" then { default with reverse := o.reverse }
  else if name = "subslices" then { default with subslices := o.subslices }
  else if name = "emptyslices" then { default with emptyslices := o.emptyslices }
  else default

variable {o r : SortOptions} {name : String} {value : Value}

theorem part_default (name : String) : default.part name = default := by
  unfold part
  split_ifs <;> rfl

theorem eq_of_part {o' : SortOptions} (h : ∀ name, o.part name = o'.part name) : o = o' := by
  have hReverse := congrArg reverse (h "reverse")
  have hSubslices := congrArg subslices (h "subslices")
  have hEmptyslices := congrArg emptyslices (h "emptyslices")
  have hKey := congrArg key (h "key")
  cases o
  cases o'
  simp_all [part]

/-- An option that is accepted takes its place, whatever the others are. -/
theorem set_eq_ok (h : o.set name value = .ok r) :
    meaning? name value = some (r.part name) ∧
      ∀ other, other ≠ name → r.part other = o.part other := by
  unfold meaning?
  unfold set at h ⊢
  split at h
  · rename_i hKey
    cases h
    exact ⟨by simp [part, hKey, Except.toOption], fun other hOther => by simp [part, hKey ▸ hOther]⟩
  · split at h
    · cases h
    · rename_i flag hFlag
      split_ifs at h with hReverse hSubslices hEmptyslices <;> cases h
      · exact ⟨by simp [part, hReverse, Except.toOption],
          fun other hOther => by simp [part, hReverse ▸ hOther]⟩
      · exact ⟨by simp [part, hSubslices, Except.toOption],
          fun other hOther => by simp [part, hSubslices ▸ hOther]⟩
      · exact ⟨by simp [part, hEmptyslices, Except.toOption],
          fun other hOther => by simp [part, hEmptyslices ▸ hOther]⟩

theorem exists_set_iff : (∃ r, o.set name value = .ok r) ↔ (meaning? name value).isSome := by
  unfold meaning? set
  split
  · simp [Except.toOption]
  · split
    · simp [Except.toOption]
    · split_ifs <;> simp [Except.toOption]

/-! ### Options in a row -/

/-- Applies options one after another.  A name counts in lower case. -/
def read (options : List (String × Value)) : Except Mistake SortOptions :=
  options.foldlM (fun o e => o.set (lowerCase e.1) e.2) default

/-- The value that is given last for a name, whatever the case of its letters.  The name is in lower
case. -/
def lastUpToCase? (name : String) (options : List (String × Value)) : Option Value :=
  Entries.last? (fun spelling => decide (lowerCase spelling = name)) options

variable {options : List (String × Value)}

theorem read_append_singleton (options : List (String × Value)) (e : String × Value) :
    read (options ++ [e]) = (read options).bind fun o => o.set (lowerCase e.1) e.2 := by
  simp only [read, List.foldlM_append, List.foldlM_cons, List.foldlM_nil, bind_pure]
  rfl

theorem exists_read_iff :
    (∃ r, read options = .ok r) ↔ ∀ e ∈ options, (meaning? (lowerCase e.1) e.2).isSome := by
  induction options using List.reverseRecOn with
  | nil => simp [read, pure, Except.pure]
  | append_singleton rest e ih =>
    rw [List.forall_mem_append, List.forall_mem_singleton, ← ih, read_append_singleton]
    cases read rest with
    | error m => simp [Except.bind]
    | ok o =>
      simp [Except.bind, exists_set_iff]

/-- What is read is put together from the values given last. -/
theorem part_of_read (h : read options = .ok r) (name : String) :
    r.part name = ((lastUpToCase? name options).bind (meaning? name)).getD default := by
  induction options using List.reverseRecOn generalizing r with
  | nil =>
    cases h
    exact part_default name
  | append_singleton rest e ih =>
    rw [read_append_singleton] at h
    cases hRest : read rest with
    | error m => simp [hRest, Except.bind] at h
    | ok o =>
      rw [hRest] at h
      obtain ⟨hOwn, hOthers⟩ := set_eq_ok h
      rw [lastUpToCase?, Entries.last?_append_singleton]
      by_cases hName : lowerCase e.1 = name
      · subst hName
        simp [hOwn]
      · rw [hOthers name (Ne.symm hName), ih hRest]
        simp [hName, lastUpToCase?]

/-! ### Spellings -/

/-- The value that is given last for one spelling of a name. -/
def lastSpelled? (spelling : String) (options : List (String × Value)) : Option Value :=
  Entries.last? (fun other => decide (other = spelling)) options

theorem lastUpToCase?_lowerCase (h : lastUpToCase? name options = some value) :
    lowerCase name = name := by
  obtain ⟨spelling, hSpelling, -⟩ := Entries.exists_key_of_last? h
  rw [← of_decide_eq_true hSpelling, lowerCase_lowerCase]

/-- The options as they are collected, one value for each spelling. -/
theorem mem_spelled_iff {spelling : String} :
    (spelling, value) ∈ Entries.ofList options ↔ lastSpelled? spelling options = some value :=
  Entries.mem_ofList_iff

theorem exists_spelled_iff :
    (∃ r, read (Entries.ofList options) = .ok r) ↔
      ∀ spelling value, lastSpelled? spelling options = some value →
        (meaning? (lowerCase spelling) value).isSome := by
  rw [exists_read_iff, Prod.forall]
  simp only [mem_spelled_iff]

theorem lastUpToCase?_spelled :
    lastUpToCase? name (Entries.ofList options) = some value ↔ ∃ spelling,
      lowerCase spelling = name ∧ lastSpelled? spelling options = some value ∧
        ∀ e ∈ options, lowerCase e.1 = name → e.1 ≤ spelling := by
  rw [lastUpToCase?, Entries.last?_eq_some_iff (Entries.ascending_ofList options)]
  simp only [decide_eq_true_eq, mem_spelled_iff, Std.LawfulBCmp.isLE_iff_le]
  refine exists_congr fun spelling => and_congr_right fun hName => and_congr_right fun hLast => ?_
  constructor
  · intro hGreatest e he
    obtain ⟨last, hMem⟩ := Entries.exists_mem_ofList_iff.mpr ⟨e.2, he⟩
    exact hGreatest (e.1, last) hMem
  · intro hGreatest e he
    obtain ⟨given, hMem⟩ := Entries.exists_mem_ofList_iff.mp ⟨e.2, he⟩
    exact hGreatest (e.1, given) hMem

/-- The options with their names in lower case. -/
def folded (options : List (String × Value)) : List (String × Value) :=
  options.map fun e => (lowerCase e.1, e.2)

theorem mem_folded_iff :
    (name, value) ∈ Entries.ofList (folded options) ↔ lastUpToCase? name options = some value := by
  rw [Entries.mem_ofList_iff, folded, Entries.last?_map_key]
  rfl

theorem exists_folded_iff :
    (∃ r, read (Entries.ofList (folded options)) = .ok r) ↔ ∀ name value,
      lastUpToCase? name options = some value → (meaning? name value).isSome := by
  rw [exists_read_iff, Prod.forall]
  simp only [mem_folded_iff]
  refine forall₃_congr fun name value h => ?_
  rw [lastUpToCase?_lowerCase h]

theorem lastUpToCase?_folded :
    lastUpToCase? name (Entries.ofList (folded options)) = lastUpToCase? name options := by
  refine Option.ext fun value => ?_
  rw [lastUpToCase?, Entries.last?_eq_some_iff (Entries.ascending_ofList _)]
  simp only [decide_eq_true_eq, mem_folded_iff]
  constructor
  · rintro ⟨key, rfl, hLast, -⟩
    rwa [lastUpToCase?_lowerCase hLast]
  · intro hLast
    refine ⟨name, lastUpToCase?_lowerCase hLast, hLast, fun e he hName => ?_⟩
    rw [← hName, lastUpToCase?_lowerCase (mem_folded_iff.mp he)]
    exact Std.ReflOrd.isLE_rfl

/-! ### Lists of arguments -/

/-- A name in lower case and without wrappers.  Other values stay as they are. -/
def nameInLowerCase (name : Value) : Value :=
  match name.asText? with
  | some s => .text (lowerCase s)
  | none => name

/-- A flat list with all names in lower case. -/
def foldNames : List Value → List Value
  | name :: value :: rest => nameInLowerCase name :: value :: foldNames rest
  | [name] => [nameInLowerCase name]
  | [] => []

theorem asText?_nameInLowerCase (name : Value) :
    (nameInLowerCase name).asText? = name.asText?.map lowerCase := by
  unfold nameInLowerCase
  split
  · rename_i s hText
    rw [hText]
    rfl
  · rename_i hNone
    rw [hNone]
    rfl

theorem length_foldNames (arguments : List Value) :
    (foldNames arguments).length = arguments.length := by
  induction arguments using foldNames.induct with
  | case1 name value rest ih => simp [foldNames, ih]
  | case2 name => rfl
  | case3 => rfl

theorem namedValues_foldNames (arguments : List Value) :
    namedValues (foldNames arguments) = folded (namedValues arguments) := by
  induction arguments using foldNames.induct with
  | case1 name value rest ih =>
    rw [foldNames, namedValues, namedValues, ih, asText?_nameInLowerCase]
    cases name.asText? <;> rfl
  | case2 name => rfl
  | case3 => rfl

variable {arguments : List Value}

theorem textNames_foldNames (hNames : TextNames arguments) : TextNames (foldNames arguments) := by
  induction arguments using foldNames.induct with
  | case1 name value rest ih =>
    obtain ⟨hName, hRest⟩ := textNames_cons.mp hNames
    rw [foldNames, textNames_cons, asText?_nameInLowerCase, Option.isSome_map]
    exact ⟨hName, ih hRest⟩
  | case2 name =>
    rw [foldNames, textNames_singleton, asText?_nameInLowerCase, Option.isSome_map]
    exact textNames_singleton.mp hNames
  | case3 => exact hNames

theorem ofArguments_of_even (hNames : TextNames arguments) (hEven : arguments.length % 2 = 0) :
    ofArguments arguments = read (Entries.ofList (namedValues arguments)) := by
  rw [ofArguments, TextDict.ofArguments_of_even hNames hEven]
  rfl

theorem ofArguments_of_odd (hNames : TextNames arguments) (hOdd : arguments.length % 2 = 1) :
    (ofArguments arguments).toOption = none := by
  obtain ⟨m, hError⟩ := TextDict.ofArguments_of_odd hNames hOdd
  rw [ofArguments, hError]
  rfl

/-- The spellings of each name lead to what its last value means: all their last values are
accepted, and the spelling that is last in the order of texts has a last value of that meaning. -/
structure SpellingsAgree (options : List (String × Value)) : Prop where
  accepted : ∀ spelling value, lastSpelled? spelling options = some value →
    (meaning? (lowerCase spelling) value).isSome
  decisive : ∀ spelling value, lastSpelled? spelling options = some value →
    (∀ e ∈ options, lowerCase e.1 = lowerCase spelling → e.1 ≤ spelling) →
      meaning? (lowerCase spelling) value =
        (lastUpToCase? (lowerCase spelling) options).bind (meaning? (lowerCase spelling))

/-! ### Outcomes -/

theorem toOption_read_eq_none (h : ¬∃ r, read options = .ok r) :
    (read options).toOption = none := by
  cases hRead : read options with
  | error m => rfl
  | ok r => exact absurd ⟨r, hRead⟩ h

theorem exists_lastUpToCase? {spelling : String} (h : lastSpelled? spelling options = some value) :
    ∃ last, lastUpToCase? (lowerCase spelling) options = some last := by
  obtain ⟨given, hMem⟩ := Entries.exists_mem_ofList_iff.mp ⟨value, mem_spelled_iff.mpr h⟩
  exact Entries.exists_last?_of_mem (decide_eq_true rfl) hMem

theorem lastUpToCase?_eq_none (h : lastUpToCase? name (Entries.ofList options) = none) :
    lastUpToCase? name options = none := by
  refine Entries.last?_eq_none_iff.mpr fun e he => ?_
  obtain ⟨last, hMem⟩ := Entries.exists_mem_ofList_iff.mpr ⟨e.2, he⟩
  exact Entries.last?_eq_none_iff.mp h (e.1, last) hMem

/-- If the values given last up to case are all accepted, the spellings decide whether they are what
the options come to. -/
theorem read_spelled_eq_folded_iff
    (hFolded : ∀ name value, lastUpToCase? name options = some value →
      (meaning? name value).isSome) :
    (read (Entries.ofList options)).toOption = (read (Entries.ofList (folded options))).toOption ↔
      SpellingsAgree options := by
  obtain ⟨r, hRead⟩ := exists_folded_iff.mpr hFolded
  have hPart : ∀ name,
      r.part name = ((lastUpToCase? name options).bind (meaning? name)).getD default := by
    intro name
    rw [part_of_read hRead, lastUpToCase?_folded]
  rw [hRead]
  constructor
  · intro hSame
    have hSpelled : read (Entries.ofList options) = .ok r := by
      cases hOther : read (Entries.ofList options) with
      | error m => simp [hOther, Except.toOption] at hSame
      | ok o => simpa [hOther, Except.toOption] using hSame
    have hAccepted := exists_spelled_iff.mp ⟨r, hSpelled⟩
    refine ⟨hAccepted, fun spelling value hLast hGreatest => ?_⟩
    obtain ⟨last, hUpToCase⟩ := exists_lastUpToCase? hLast
    obtain ⟨meant, hMeant⟩ := Option.isSome_iff_exists.mp (hAccepted spelling value hLast)
    obtain ⟨wanted, hWanted⟩ := Option.isSome_iff_exists.mp (hFolded _ _ hUpToCase)
    have hDecides := part_of_read hSpelled (lowerCase spelling)
    rw [lastUpToCase?_spelled.mpr ⟨spelling, rfl, hLast, hGreatest⟩, hPart, hUpToCase] at hDecides
    simp only [Option.bind_some, hMeant, hWanted, Option.getD_some] at hDecides
    rw [hUpToCase, Option.bind_some, hMeant, hWanted, hDecides]
  · intro hAgree
    obtain ⟨o, hSpelled⟩ := exists_spelled_iff.mpr hAgree.accepted
    have hSame : o = r := by
      refine eq_of_part fun name => ?_
      rw [part_of_read hSpelled, hPart]
      cases hDecides : lastUpToCase? name (Entries.ofList options) with
      | none => rw [lastUpToCase?_eq_none hDecides]
      | some value =>
        obtain ⟨spelling, rfl, hLast, hGreatest⟩ := lastUpToCase?_spelled.mp hDecides
        rw [Option.bind_some, hAgree.decisive spelling value hLast hGreatest]
    rw [hSpelled, hSame]

/-- A value that is given last up to case and refused is refused under its spelling too. -/
theorem read_eq_none_of_refused (hLast : lastUpToCase? name options = some value)
    (hRefused : meaning? name value = none) :
    (read (Entries.ofList options)).toOption = none ∧
      (read (Entries.ofList (folded options))).toOption = none := by
  obtain ⟨spelling, hSpelling, hSpelled⟩ := Entries.exists_key_of_last? hLast
  obtain rfl := of_decide_eq_true hSpelling
  constructor
  · refine toOption_read_eq_none fun hRead => ?_
    simpa [hRefused] using exists_spelled_iff.mp hRead spelling value hSpelled
  · refine toOption_read_eq_none fun hRead => ?_
    simpa [hRefused] using exists_folded_iff.mp hRead _ value hLast

theorem ofArguments_foldNames (hNames : TextNames arguments) :
    (ofArguments (foldNames arguments)).toOption =
      if arguments.length % 2 = 0 then
        (read (Entries.ofList (folded (namedValues arguments)))).toOption
      else none := by
  have hFolded := textNames_foldNames hNames
  have hLength := length_foldNames arguments
  split
  · rename_i hEven
    rw [ofArguments_of_even hFolded (hLength ▸ hEven), namedValues_foldNames]
  · exact ofArguments_of_odd hFolded (by omega)

theorem ofList_folded_congr {others : List (String × Value)}
    (h : ∀ name, lastUpToCase? name others = lastUpToCase? name options) :
    Entries.ofList (folded others) = Entries.ofList (folded options) := by
  refine Entries.eq_of_get? (Entries.ascending_ofList _) (Entries.ascending_ofList _) fun name => ?_
  rw [Entries.get?_ofList, Entries.get?_ofList, folded, folded, Entries.last?_map_key,
    Entries.last?_map_key]
  exact h name

/-- Lower-casing the names keeps the outcome just when a name has no value, or some value that is
given last up to case is refused, or the spellings agree.  The outcome in lower case depends on the
values given last up to case alone. -/
theorem outcome_in_lower_case_iff (hNames : TextNames arguments) :
    ((ofArguments arguments).toOption = (ofArguments (foldNames arguments)).toOption ↔
      arguments.length % 2 = 1 ∨
      (∃ name value, lastUpToCase? name (namedValues arguments) = some value ∧
        meaning? name value = none) ∨
      SpellingsAgree (namedValues arguments)) ∧
    ∀ others, TextNames others → others.length % 2 = arguments.length % 2 →
      (∀ name, lastUpToCase? name (namedValues others) =
        lastUpToCase? name (namedValues arguments)) →
      (ofArguments (foldNames others)).toOption = (ofArguments (foldNames arguments)).toOption := by
  constructor
  · rw [ofArguments_foldNames hNames]
    split
    · rename_i hEven
      rw [ofArguments_of_even hNames hEven]
      by_cases hFolded : ∀ name value, lastUpToCase? name (namedValues arguments) = some value →
          (meaning? name value).isSome
      · rw [read_spelled_eq_folded_iff hFolded]
        refine ⟨fun hAgree => .inr (.inr hAgree), ?_⟩
        rintro (hOdd | ⟨name, value, hLast, hRefused⟩ | hAgree)
        · omega
        · simpa [hRefused] using hFolded name value hLast
        · exact hAgree
      · push Not at hFolded
        obtain ⟨name, value, hLast, hRefused⟩ := hFolded
        have hNone : meaning? name value = none := by simpa using hRefused
        obtain ⟨hSpelled, hFolded⟩ := read_eq_none_of_refused hLast hNone
        exact iff_of_true (hSpelled.trans hFolded.symm) (.inr (.inl ⟨name, value, hLast, hNone⟩))
    · rename_i hOdd
      have hOdd : arguments.length % 2 = 1 := by omega
      exact iff_of_true (ofArguments_of_odd hNames hOdd) (.inl hOdd)
  · intro others hOthers hLength hLast
    rw [ofArguments_foldNames hNames, ofArguments_foldNames hOthers, hLength,
      ofList_folded_congr hLast]

/-- Two spellings whose last values differ: the smaller spelling stands first in the list. -/
theorem reverse_spelled_twice :
    let arguments : List Value := [.text "Reverse", .bool false, .text "reverse", .bool true]
    TextNames arguments ∧
      (ofArguments arguments).toOption = (ofArguments (foldNames arguments)).toOption ∧
      ofArguments arguments = .ok ⟨true, false, false, none⟩ := by
  intro arguments
  have hNames : TextNames arguments :=
    textNames_cons.mpr ⟨rfl, textNames_cons.mpr ⟨rfl, textNames_nil⟩⟩
  have hSpelled : Entries.ofList (namedValues arguments) =
      [("Reverse", .bool false), ("reverse", .bool true)] := by cbv
  have hLast : ∀ {spelling value}, lastSpelled? spelling (namedValues arguments) = some value →
      spelling = "Reverse" ∧ value = .bool false ∨ spelling = "reverse" ∧ value = .bool true := by
    intro spelling value h
    simpa [hSpelled] using mem_spelled_iff.mpr h
  refine ⟨hNames, (outcome_in_lower_case_iff hNames).1.mpr (.inr (.inr ⟨?_, ?_⟩)), by cbv⟩
  · intro spelling value h
    obtain ⟨rfl, rfl⟩ | ⟨rfl, rfl⟩ := hLast h <;> cbv
  · intro spelling value h hGreatest
    obtain ⟨rfl, rfl⟩ | ⟨rfl, rfl⟩ := hLast h
    · have hNamed : namedValues arguments =
          [("Reverse", .bool false), ("reverse", .bool true)] := rfl
      have hLE := hGreatest ("reverse", .bool true) (by simp [hNamed]) (by cbv)
      exact absurd hLE (by decide)
    · cbv

/-- The value given last for a name in two spellings is not the one that counts. -/
theorem key_spelled_twice :
    let arguments : List Value := [.text "key", .int 0, .text "KEY", .int 1]
    TextNames arguments ∧
      ofArguments arguments = .ok ⟨false, false, false, some (.int 0)⟩ ∧
      ofArguments (foldNames arguments) = .ok ⟨false, false, false, some (.int 1)⟩ ∧
      (ofArguments arguments).toOption ≠ (ofArguments (foldNames arguments)).toOption := by
  intro arguments
  have hGiven : ofArguments arguments = .ok ⟨false, false, false, some (.int 0)⟩ := by cbv
  have hFolded : ofArguments (foldNames arguments) = .ok ⟨false, false, false, some (.int 1)⟩ := by
    cbv
  refine ⟨textNames_cons.mpr ⟨rfl, textNames_cons.mpr ⟨rfl, textNames_nil⟩⟩, hGiven, hFolded, ?_⟩
  rw [hGiven, hFolded]
  simp [Except.toOption]

end SortOptions

end BotScript
