import BotScript.Proofs.Nested
import BotScript.Builtin.Reaction
import BotScript.Builtin.Role

/-! Arguments that are passed one by one, and the same arguments in one list.  A list is passed on
as it is, while arguments that are spread lose their nils or have them replaced.  So the two forms
come to the same if and only if none of the values is nil: `spread_iff`. -/

namespace BotScript

/-- A value with no list inside its wrappers. -/
def Value.NoList (v : Value) : Prop := ∀ items, v.dereference ≠ some (.list items)

/-! ### Sequences -/

section Sequences

variable {skipNil : Bool} {v : Value} {xs : List Value}

theorem flatten_cons (skipNil : Bool) (v : Value) (rest : List Value) :
    flatten skipNil (v :: rest) = flatten skipNil [v] ++ flatten skipNil rest := by
  simp [flatten]

/-- The values of a list are passed on as they are, nils among them. -/
theorem flatten_packed (skipNil : Bool) (wrappers : Nat) (xs : List Value) :
    flatten skipNil [.wrapped wrappers (.list xs)] = xs := by
  simp [flatten, Value.dereference]

theorem flatten_given (hNil : v.isNil = false) (hList : v.NoList) : flatten skipNil [v] = [v] := by
  unfold Value.isNil at hNil
  rcases hInside : v.dereference with _ | inner
  · simp [hInside] at hNil
  · cases inner with
    | list items => exact absurd hInside (hList items)
    | _ => simp [flatten, hInside]

theorem flatten_nil_value (hNil : v.isNil = true) :
    flatten skipNil [v] = if skipNil then [] else [.null] := by
  have hNone : v.dereference = none := Option.isNone_iff_eq_none.mp hNil
  simp [flatten, hNone]

/-- Spreading loses the nils if they are skipped, and nothing else. -/
theorem length_flatten (hLists : ∀ v ∈ xs, v.NoList) :
    (flatten skipNil xs).length + (if skipNil then xs.countP Value.isNil else 0) = xs.length := by
  induction xs with
  | nil => cases skipNil <;> rfl
  | cons v rest ih =>
    have hRest := ih fun w hw => hLists w (List.mem_cons_of_mem v hw)
    rw [flatten_cons, List.length_append, List.countP_cons, List.length_cons]
    rcases hNil : v.isNil with _ | _
    · rw [flatten_given hNil (hLists v List.mem_cons_self), List.length_singleton]
      cases skipNil <;> simp at hRest ⊢ <;> omega
    · rw [flatten_nil_value hNil]
      cases skipNil <;> simp at hRest ⊢ <;> omega

theorem flatten_of_given (hLists : ∀ v ∈ xs, v.NoList) (hGiven : ∀ v ∈ xs, v.isNil = false) :
    flatten skipNil xs = xs := by
  induction xs with
  | nil => rfl
  | cons v rest ih =>
    have hRest := ih (fun w hw => hLists w (List.mem_cons_of_mem v hw))
      fun w hw => hGiven w (List.mem_cons_of_mem v hw)
    rw [flatten_cons, hRest, flatten_given (hGiven v List.mem_cons_self)
      (hLists v List.mem_cons_self)]
    rfl

theorem given_of_length (hLists : ∀ v ∈ xs, v.NoList)
    (hLength : (flatten true xs).length = xs.length) : ∀ v ∈ xs, v.isNil = false := by
  have hCount : (flatten true xs).length + xs.countP Value.isNil = xs.length :=
    length_flatten hLists
  have hNone : xs.countP Value.isNil = 0 := by omega
  intro v hv
  exact Bool.eq_false_iff.mpr (List.countP_eq_zero.mp hNone v hv)

/-- Spread values stay as they are if and only if their nils are kept and are null already. -/
theorem flatten_eq_self_iff (hLists : ∀ v ∈ xs, v.NoList) :
    flatten skipNil xs = xs ↔ ∀ v ∈ xs, v.isNil = true → skipNil = false ∧ v = .null := by
  cases skipNil with
  | true =>
    constructor
    · intro hSame v hv hNil
      have hGiven := given_of_length hLists (congrArg List.length hSame) v hv
      rw [hNil] at hGiven
      exact nomatch hGiven
    · intro hNulls
      apply flatten_of_given hLists
      intro v hv
      apply Bool.eq_false_iff.mpr
      intro hNil
      exact nomatch (hNulls v hv hNil).1
  | false =>
    induction xs with
    | nil => simp [flatten]
    | cons v rest ih =>
      have hRest := ih fun w hw => hLists w (List.mem_cons_of_mem v hw)
      rw [flatten_cons, List.forall_mem_cons, ← hRest]
      rcases hNil : v.isNil with _ | _
      · rw [flatten_given hNil (hLists v List.mem_cons_self)]
        simp
      · rw [flatten_nil_value hNil]
        simp [eq_comm]

end Sequences

/-! ### Functions -/

/-- The two forms of passing arguments come to the same: the arguments `xs` one by one, and
`packed` in their place.  They stand for the same values, and the functions that take any number of
them do the same in every session, whatever comes before. -/
structure SpreadsAs (xs : List Value) (packed : Value) : Prop where
  values : ∀ skipNil, flatten skipNil xs = flatten skipNil [packed]
  texts : flattenTexts xs = flattenTexts [packed]
  addReactions : Script.addReactions xs = Script.addReactions [packed]
  addResponseReactions : Script.addResponseReactions xs = Script.addResponseReactions [packed]
  addMessageReactions : ∀ channel message,
    Script.addMessageReactions (channel :: message :: xs) =
      Script.addMessageReactions [channel, message, packed]
  deleteMessageReaction : ∀ channel message user,
    Script.deleteMessageReaction (channel :: message :: user :: xs) =
      Script.deleteMessageReaction [channel, message, user, packed]
  setRoles : ∀ user, Script.setRoles (user :: xs) = Script.setRoles [user, packed]

/-- The functions look at nothing but the values that the arguments stand for. -/
theorem spreadsAs_of_values {xs : List Value} {packed : Value}
    (h : ∀ skipNil, flatten skipNil xs = flatten skipNil [packed]) : SpreadsAs xs packed := by
  have hTexts : flattenTexts xs = flattenTexts [packed] := congrArg (List.map Value.toText) (h true)
  refine ⟨h, hTexts, ?_, ?_, fun channel message => ?_, fun channel message user => ?_,
    fun user => ?_⟩
  · unfold Script.addReactions
    rw [hTexts]
  · unfold Script.addResponseReactions
    rw [hTexts]
  · unfold Script.addMessageReactions
    rw [requireArguments_of_le (by simp), requireArguments_of_le (by simp)]
    simp only [List.drop_succ_cons, List.drop_zero, hTexts]
    rfl
  · unfold Script.deleteMessageReaction
    rw [requireArguments_of_le (by simp), requireArguments_of_le (by simp)]
    simp only [List.drop_succ_cons, List.drop_zero, hTexts]
    rfl
  · unfold Script.setRoles
    rw [requireArguments_of_le (by simp), requireArguments_of_le (by simp)]
    simp only [List.drop_succ_cons, List.drop_zero, h true]
    rfl

/-- Values with no lists among them come to the same one by one and in a list, in any number of
wrappers, if and only if none of them is nil.  Where nils are kept it is enough that each is null
already, and where they are skipped there may be none. -/
theorem spread_iff {xs : List Value} (hLists : ∀ v ∈ xs, v.NoList) (wrappers : Nat) :
    (SpreadsAs xs (.wrapped wrappers (.list xs)) ↔ ∀ v ∈ xs, v.isNil = false) ∧
    (flattenTexts xs = flattenTexts [.wrapped wrappers (.list xs)] ↔ ∀ v ∈ xs, v.isNil = false) ∧
    ∀ skipNil, flatten skipNil xs = flatten skipNil [.wrapped wrappers (.list xs)] ↔
      ∀ v ∈ xs, v.isNil = true → skipNil = false ∧ v = .null := by
  have hSpread : (∀ v ∈ xs, v.isNil = false) → SpreadsAs xs (.wrapped wrappers (.list xs)) := by
    intro hGiven
    apply spreadsAs_of_values
    intro skipNil
    rw [flatten_packed, flatten_of_given hLists hGiven]
  have hTexts : flattenTexts xs = flattenTexts [.wrapped wrappers (.list xs)] →
      ∀ v ∈ xs, v.isNil = false := by
    intro hSame
    have hLength := congrArg List.length hSame
    unfold flattenTexts at hLength
    rw [List.length_map, List.length_map, flatten_packed] at hLength
    exact given_of_length hLists hLength
  refine ⟨⟨fun h => hTexts h.texts, hSpread⟩, ⟨hTexts, fun hGiven => (hSpread hGiven).texts⟩,
    fun skipNil => ?_⟩
  rw [flatten_packed]
  exact flatten_eq_self_iff hLists

/-- Two emojis, one of them in a wrapper, come to the same in a list in two wrappers. -/
theorem spread_two_emojis :
    (∀ v ∈ [Value.text "a", .boxed (.text "b")], v.NoList) ∧
    Script.addReactions [.text "a", .boxed (.text "b")] =
      Script.addReactions [.wrapped 2 (.list [.text "a", .boxed (.text "b")])] := by
  have hLists : ∀ v ∈ [Value.text "a", .boxed (.text "b")], v.NoList := by
    simp [Value.NoList, Value.boxed, Value.dereference]
  have hGiven : ∀ v ∈ [Value.text "a", .boxed (.text "b")], v.isNil = false := by
    simp [Value.isNil, Value.boxed, Value.dereference]
  exact ⟨hLists, ((spread_iff hLists 2).1.mpr hGiven).addReactions⟩

/-- A nil is skipped when it is spread, and counts as a reaction without an emoji when it is in a
list. -/
theorem nil_in_list_differs :
    let xs : List Value := [.text "a", .null]
    let spread := (Script.addReactions xs).perform Script.sampleEnvironment
      Script.sampleEnvironment.start
    let packed := (Script.addReactions [.list xs]).perform Script.sampleEnvironment
      Script.sampleEnvironment.start
    (∀ v ∈ xs, v.NoList) ∧ flatten true xs ≠ flatten true [.list xs] ∧
      flattenTexts xs = ["a"] ∧ flattenTexts [.list xs] = ["a", ""] ∧
      spread.1 = .ok done ∧ spread.2.ledger.count "add_reaction_trigger" = 1 ∧
      packed.1 = .error (.platform "unknown emoji") ∧
      packed.2.ledger.count "add_reaction_trigger" = 2 := by
  intro xs spread packed
  have hSpread : flatten true xs = [.text "a"] := rfl
  have hPacked : flatten true [.list xs] = [.text "a", .null] := rfl
  refine ⟨by simp [xs, Value.NoList, Value.dereference], ?_, rfl, rfl, rfl, rfl, rfl, rfl⟩
  rw [hSpread, hPacked]
  simp

end BotScript
