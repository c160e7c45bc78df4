import BotScript.Proofs.Exposure
import BotScript.Proofs.SelfEquality

/-! Nested calls that are given the data bag.  A copy of the data bag is found by comparing, and
while the bag holds no NaN each copy is found, as the only argument in any number of wrappers and at
any place in a map that several arguments make.  With a NaN in it the data bag equals nothing, and
then only the depth of maps is a reason left to refuse a call: `bag_refused_iff`. -/

namespace BotScript

open Script Safety

namespace Script

variable (name : String) (target : Target) (arguments : List Value) (env : Environment)
  (s : Session)

/-- The call fails for its arguments, whatever would have rendered the template, and no body
starts. -/
def ArgumentsRefused (reason : UnsafeArguments) : Prop :=
  bodyStart? name target arguments env s = none ∧ ∀ engine,
    ((nested engine name target arguments).perform env s).1 = .error (.unsafeArguments reason)

/-- The body of the call starts. -/
def BodyStarts : Prop := (bodyStart? name target arguments env s).isSome

variable {name target arguments env s} {t : Template} {frame : Frame} {ready : Session}

/-- Of a prepared call only the arguments are still to be looked at. -/
theorem bodyStart?_of_prepared (arguments : List Value)
    (hPrepared : (prepare name target).perform env s = (.ok (t, frame), ready)) :
    (∀ {fault}, nestedArguments env.limits s.bag arguments = .error fault →
      bodyStart? name target arguments env s = none ∧
      ∀ engine, ((nested engine name target arguments).perform env s).1 = .error fault) ∧
    ∀ {value}, nestedArguments env.limits s.bag arguments = .ok value →
      BodyStarts name target arguments env s := by
  have hBag : ready.bag = s.bag := by rw [← prepare_bag name target env s, hPrepared]
  refine ⟨fun {fault} hFault => ⟨?_, fun engine => ?_⟩, fun {value} hValue => ?_⟩
  · simp only [bodyStart?, hPrepared, perform_expose, hBag, hFault]
  · rw [nested, perform_bind, hPrepared]
    simp only [perform_within]
    rw [perform_bind, perform_expose]
    simp only [hBag, hFault]
  · simp only [BodyStarts, bodyStart?, hPrepared, perform_expose, hBag, hValue, Option.isSome_some]

theorem argumentsRefused_iff
    (hPrepared : (prepare name target).perform env s = (.ok (t, frame), ready))
    (reason : UnsafeArguments) : ArgumentsRefused name target arguments env s reason ↔
      nestedArguments env.limits s.bag arguments = .error (.unsafeArguments reason) := by
  obtain ⟨hFails, hStarts⟩ := bodyStart?_of_prepared arguments hPrepared
  rcases hArguments : nestedArguments env.limits s.bag arguments with fault | value
  · obtain ⟨hNone, hResult⟩ := hFails hArguments
    refine ⟨fun h => ?_, fun h => ?_⟩
    · rw [← hResult fun _ => pure ""]
      exact h.2 _
    · cases h
      exact ⟨hNone, hResult⟩
  · refine ⟨fun h => ?_, fun h => nomatch h⟩
    have hSome := hStarts hArguments
    rw [BodyStarts, h.1] at hSome
    exact nomatch hSome

theorem bodyStarts_iff
    (hPrepared : (prepare name target).perform env s = (.ok (t, frame), ready)) :
    BodyStarts name target arguments env s ↔
      ∃ value, nestedArguments env.limits s.bag arguments = .ok value := by
  obtain ⟨hFails, hStarts⟩ := bodyStart?_of_prepared arguments hPrepared
  rcases hArguments : nestedArguments env.limits s.bag arguments with fault | value
  · rw [BodyStarts, (hFails hArguments).1]
    simp
  · exact ⟨fun _ => ⟨value, rfl⟩, fun _ => hStarts hArguments⟩

end Script

/-! ### What is noticed -/

variable {limits : Limits} {bag entries : TextDict} {arguments : List Value} {level : Nat}

/-- A map lies in the value, below more than `maxDepth` maps. -/
def TooDeep (maxDepth : Nat) (v : Value) : Prop :=
  ∃ level u, Place .checked v (level + 1) u ∧ u.kind = .map ∧ maxDepth < level + 1

theorem equalNamed_self_iff : Value.equalNamed bag bag = true ↔ (Value.textDict bag).NaNFree := by
  rw [← Value.equals_self_iff, Value.equals]

theorem nestedArguments_wrapped (limits : Limits) (bag : TextDict) (k : Nat) :
    nestedArguments limits bag [.wrapped k (.textDict bag)] =
      if Value.equalNamed bag bag then .error (.unsafeArguments .wholeBag)
      else .ok (.wrapped k (.textDict bag)) := by
  simp only [nestedArguments, Value.dereference_wrapped, Value.dereference]

theorem nestedArguments_of_map (hSeveral : 2 ≤ arguments.length)
    (hEntries : TextDict.ofArguments arguments = .ok entries) :
    nestedArguments limits bag arguments =
      if isSafe bag limits.mapDepth 0 (.textDict entries) then .ok (.textDict entries)
      else .error (.unsafeArguments .deepOrBag) := by
  match arguments, hSeveral with
  | first :: second :: rest, _ => simp only [nestedArguments, hEntries]

/-- A map that holds the data bag is accepted if and only if there is a NaN in the data bag and no
map is too deep. -/
theorem isSafe_of_bag_inside (maxDepth : Nat)
    (hPlace : Place .checked (.textDict entries) (level + 1) (.textDict bag)) :
    isSafe bag maxDepth 0 (.textDict entries) = true ↔
      ¬((Value.textDict bag).NaNFree ∨ TooDeep maxDepth (.textDict entries)) := by
  rw [isSafe_iff, not_or]
  constructor
  · intro hHarmless
    refine ⟨fun hFree => ?_, fun ⟨level, u, hDeep, hMap, hLevel⟩ => ?_⟩
    · have hCopy := (hHarmless level _ hPlace).2
      rw [equalNamed_self_iff.mpr hFree] at hCopy
      exact nomatch hCopy
    · have hHere := hHarmless level u hDeep
      cases u with
      | dict _ => exact absurd hHere (Nat.not_le_of_lt hLevel)
      | textDict _ => exact absurd hHere.1 (Nat.not_le_of_lt hLevel)
      | _ => exact nomatch hMap
  · rintro ⟨hNaN, hFlat⟩ below u hInside
    have hLevel : u.kind = .map → below + 1 ≤ maxDepth := fun hMap =>
      Nat.le_of_not_lt fun hDeep => hFlat ⟨below, u, hInside, hMap, hDeep⟩
    cases u with
    | dict _ => exact hLevel rfl
    | textDict found =>
      refine ⟨hLevel rfl, Bool.eq_false_iff.mpr fun hEqual => hNaN ?_⟩
      have hEquals : (Value.textDict found).equals (.textDict bag) = true := by
        rw [Value.equals]
        exact hEqual
      exact Value.nanFree_of_equals hEquals
    | _ => trivial

/-- A prepared call with the data bag as its only argument is refused if and only if there is no NaN
in the data bag, whatever wrappers there are, and otherwise its body starts.  With several arguments
that make a map with the data bag in it, a call is also refused if a map is too deep. -/
theorem bag_refused_iff {name : String} {target : Target} {env : Environment} {s ready : Session}
    {t : Template} {frame : Frame}
    (hPrepared : (prepare name target).perform env s = (.ok (t, frame), ready)) :
    (∀ k, (ArgumentsRefused name target [.wrapped k (.textDict s.bag)] env s .wholeBag ↔
          (Value.textDict s.bag).NaNFree) ∧
        (BodyStarts name target [.wrapped k (.textDict s.bag)] env s ↔
          ¬(Value.textDict s.bag).NaNFree)) ∧
      ∀ arguments entries level, 2 ≤ arguments.length →
        TextDict.ofArguments arguments = .ok entries →
        Place .checked (.textDict entries) (level + 1) (.textDict s.bag) →
        (ArgumentsRefused name target arguments env s .deepOrBag ↔
          (Value.textDict s.bag).NaNFree ∨ TooDeep env.limits.mapDepth (.textDict entries)) ∧
        (BodyStarts name target arguments env s ↔
          ¬((Value.textDict s.bag).NaNFree ∨
            TooDeep env.limits.mapDepth (.textDict entries))) := by
  constructor
  · intro k
    rw [argumentsRefused_iff hPrepared, bodyStarts_iff hPrepared, nestedArguments_wrapped,
      ← equalNamed_self_iff]
    rcases Value.equalNamed s.bag s.bag with _ | _ <;> simp
  · intro arguments entries level hSeveral hEntries hPlace
    have hSafe := isSafe_of_bag_inside env.limits.mapDepth hPlace
    rw [argumentsRefused_iff hPrepared, bodyStarts_iff hPrepared,
      nestedArguments_of_map hSeveral hEntries]
    by_cases hReason : (Value.textDict s.bag).NaNFree ∨
        TooDeep env.limits.mapDepth (.textDict entries)
    · have hRefused : isSafe s.bag env.limits.mapDepth 0 (.textDict entries) = false :=
        Bool.eq_false_iff.mpr fun hAccepted => hSafe.mp hAccepted hReason
      simp [hRefused, hReason]
    · simp [hSafe.mpr hReason, hReason]

/-- The session of an execution that has put a number in the data bag. -/
def numberSession (x : Binary64) : Session :=
  { sampleEnvironment.start with bag := [("x", .float x)] }

theorem child_prepared (x : Binary64) : ∃ t frame ready,
    (prepare "child" (.channel none)).perform sampleEnvironment (numberSession x) =
      (.ok (t, frame), ready) := ⟨_, _, _, rfl⟩

theorem bag_refused_one : ArgumentsRefused "child" (.channel none)
      [.wrapped 3 (.textDict (numberSession .one).bag)] sampleEnvironment (numberSession .one)
      .wholeBag ∧
    ArgumentsRefused "child" (.channel none)
      [.text "self", .textDict (numberSession .one).bag] sampleEnvironment (numberSession .one)
      .deepOrBag := by
  obtain ⟨t, frame, ready, hPrepared⟩ := child_prepared .one
  have hFree : (Value.textDict (numberSession .one).bag).NaNFree :=
    equalNamed_self_iff.mp (by simp [numberSession, Value.equalNamed, Value.equals]; decide)
  obtain ⟨hSingle, hSeveral⟩ := bag_refused_iff hPrepared
  have hInside : Place .checked
      (.textDict [("self", .textDict (numberSession .one).bag)]) 1
      (.textDict (numberSession .one).bag) :=
    .inTextDict rfl List.mem_cons_self (.here _)
  exact ⟨(hSingle 3).1.mpr hFree,
    (hSeveral [.text "self", .textDict (numberSession .one).bag] _ 0 (by simp) rfl hInside).1.mpr
      (.inl hFree)⟩

/-- With a NaN in it the data bag is not noticed, and the body starts. -/
theorem bag_of_nan_passes : BodyStarts "child" (.channel none)
      [.textDict (numberSession .nan).bag] sampleEnvironment (numberSession .nan) ∧
    BodyStarts "child" (.channel none)
      [.text "self", .textDict (numberSession .nan).bag] sampleEnvironment
      (numberSession .nan) := by
  obtain ⟨t, frame, ready, hPrepared⟩ := child_prepared .nan
  let bag := (numberSession .nan).bag
  have hNaN : Binary64.nan.equals .nan = false := by decide
  have hUnequal : Value.equalNamed bag bag = false := by
    simp [bag, numberSession, Value.equalNamed, Value.equals, hNaN]
  have hSafe : isSafe bag sampleEnvironment.limits.mapDepth 0
      (.textDict [("self", .textDict bag)]) = true := by
    have hMembers : namedAreSafe bag sampleEnvironment.limits.mapDepth 2 bag = true := by
      simp [bag, numberSession, namedAreSafe, memberIsSafe]
    have hDepth : decide (1 ≤ sampleEnvironment.limits.mapDepth) = true := by decide
    simp [isSafe, Value.dereference, namedAreSafe, memberIsSafe, hUnequal, hMembers, hDepth]
  constructor
  · have hValue := nestedArguments_wrapped sampleEnvironment.limits bag 0
    rw [hUnequal] at hValue
    exact (bodyStarts_iff hPrepared).mpr ⟨_, hValue⟩
  · have hValue : nestedArguments sampleEnvironment.limits bag [.text "self", .textDict bag] =
        .ok (.textDict [("self", .textDict bag)]) := by
      refine (nestedArguments_of_map (by simp) ?_).trans (if_pos hSafe)
      simp [TextDict.ofArguments, TextDict.setPairs, Value.dereference, Entries.insert]
    exact (bodyStarts_iff hPrepared).mpr ⟨_, hValue⟩

end BotScript
