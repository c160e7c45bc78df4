import BotScript.Execution.Nested
import BotScript.Proofs.Powers
import BotScript.Rehearsal

/-! Nested calls, taken apart where their body starts.  A call first prepares: it is counted, its
name is looked up and its channel is found, and none of this touches the frame or the data bag.
`bodyStart?` is the session in which the body then starts, and `perform_nested_of_start` and
`perform_nested_of_none` say what becomes of a call that gets so far and of one that does not.  The
main statement is that every call leaves the frame and the arguments of its caller as they were. -/

namespace BotScript

/-- A session with one more event. -/
def Session.noting (s : Session) (e : Event) : Session := { s with log := e :: s.log }

namespace Script

variable {α : Type} (name : String) (target : Target) (arguments : List Value) (env : Environment)
  (s : Session)

@[simp] theorem perform_note (e : Event) : (note e).perform env s = (.ok (), s.noting e) := rfl

/-! ### Preparing -/

/-- How many nested calls have been counted when one more has. -/
def nestedCount : Nat := (s.ledger.charge nestedKey).count nestedKey

/-- The demand for one more nested call. -/
def nestedDemand (limits : Limits) : Demand := .calls nestedKey limits.nestedCalls

/-- The session in which one more nested call has been counted. -/
def counted : Session :=
  { s with
    ledger := s.ledger.charge nestedKey
    log := .demanded (nestedDemand env.limits) (decide (nestedCount s ≤ env.limits.nestedCalls)) ::
      s.log }

/-- The first reason against a nested call that is found before its template is looked up. -/
def refusal? : Option Fault :=
  if env.limits.nestedCalls < nestedCount s then some (.exhausted .calls)
  else if name.isEmpty then some (.invalid .noTemplateName)
  else if s.frame.isNested then some .nested
  else none

theorem perform_nestedDemand :
    (demand (nestedDemand env.limits)).perform env s =
      (if env.limits.nestedCalls < nestedCount s then .error (.exhausted .calls) else .ok (),
        counted env s) := by
  have hEnsure : s.ledger.ensure (nestedDemand env.limits) =
      (if env.limits.nestedCalls < nestedCount s then .error (.exhausted .calls) else .ok (),
        s.ledger.charge nestedKey) := Ledger.ensure_calls ..
  by_cases h : env.limits.nestedCalls < nestedCount s
  · have hNot : decide (nestedCount s ≤ env.limits.nestedCalls) = false := by simpa using h
    rw [if_pos h] at hEnsure ⊢
    rw [perform_demand, hEnsure, counted, hNot]
    rfl
  · have hLe : decide (nestedCount s ≤ env.limits.nestedCalls) = true := by simpa using h
    rw [if_neg h] at hEnsure ⊢
    rw [perform_demand, hEnsure, counted, hLe]
    rfl

/-- What a nested call looks up once nothing is against it. -/
def lookUp : Script (Template × Frame) := do
  let template ← orMissing (.template name) (← ask (·.host.template name))
  let (channel, direct) ← route target
  return (template, .nested channel template direct)

/-- What was looked up is the template of the name, in a nested frame for the channel that was
found. -/
theorem perform_lookUp_eq_ok {t : Template} {frame : Frame} {after : Session}
    (h : (lookUp name target).perform env s = (.ok (t, frame), after)) :
    env.host.template name = some t ∧ ∃ channel direct,
      (route target).perform env s = (.ok (channel, direct), after) ∧
      frame = .nested channel t direct := by
  obtain ⟨known, s1, hAsk, hKnown⟩ := perform_bind_eq_ok.mp h
  cases hAsk
  obtain ⟨found, s2, hOr, hFound⟩ := perform_bind_eq_ok.mp hKnown
  obtain ⟨hTemplate, rfl⟩ := perform_orMissing_eq_ok hOr
  obtain ⟨⟨channel, direct⟩, s3, hRoute, hLast⟩ := perform_bind_eq_ok.mp hFound
  cases hLast
  exact ⟨hTemplate, channel, direct, hRoute, rfl⟩

theorem perform_prepare :
    (prepare name target).perform env s = match refusal? name env s with
      | some fault => (.error fault, counted env s)
      | none => (lookUp name target).perform env (counted env s) := by
  have hDemand := perform_nestedDemand env s
  rw [nestedDemand] at hDemand
  have hFrame : (counted env s).frame = s.frame := rfl
  have hLookUp : prepare name target = (do
      let limits ← ask (·.limits)
      demand (.calls nestedKey limits.nestedCalls)
      if name.isEmpty then throw (.invalid .noTemplateName)
      if ← look (·.frame.isNested) then throw .nested
      lookUp name target) := rfl
  rw [hLookUp, refusal?]
  simp only [perform_bind, perform_ask, hDemand]
  by_cases hCount : env.limits.nestedCalls < nestedCount s
  · simp only [if_pos hCount]
  by_cases hName : name.isEmpty = true
  · simp [if_neg hCount, hName]
  by_cases hNested : s.frame.isNested = true
  · simp [if_neg hCount, hName, hNested, hFrame]
  · simp [if_neg hCount, hName, hNested, hFrame]

theorem refusal?_eq_none (h : refusal? name env s = none) :
    nestedCount s ≤ env.limits.nestedCalls ∧ name.isEmpty = false ∧ s.frame.isNested = false := by
  rw [refusal?] at h
  split at h
  · exact nomatch h
  split at h
  · exact nomatch h
  split at h
  · exact nomatch h
  · rename_i hCount hName hNested
    exact ⟨Nat.le_of_not_lt hCount, Bool.eq_false_iff.mpr hName, Bool.eq_false_iff.mpr hNested⟩

/-- A call that has been prepared was counted and not refused, and then looked up. -/
theorem perform_prepare_eq_ok {found : Template × Frame} {ready : Session}
    (h : (prepare name target).perform env s = (.ok found, ready)) :
    refusal? name env s = none ∧
      (lookUp name target).perform env (counted env s) = (.ok found, ready) := by
  rw [perform_prepare] at h
  split at h
  · exact nomatch h
  · rename_i hNone
    exact ⟨hNone, h⟩

theorem route_confined :
    Confined (.asking fun c => ∃ user, c = .openDirect user) (route target) := by
  refine .bind (.look _) fun frame => ?_
  split
  · refine .bind (.ask _) fun trigger => ?_
    simp only
    split
    · refine .bind (.throw rfl) fun _ => ?_
      split
      · exact .pure _
      · exact .bind (.orMissing _ _) fun member => .bind (.call ⟨_, rfl⟩) fun _ => .pure _
    · split
      · exact .pure _
      · exact .bind (.orMissing _ _) fun member => .bind (.call ⟨_, rfl⟩) fun _ => .pure _
  · exact .bind (.orMissing _ _) fun _ => .pure _
  · exact .bind (.ask _) fun _ => .bind (.orMissing _ _) fun _ => .pure _

theorem lookUp_confined :
    Confined (.asking fun c => ∃ user, c = .openDirect user) (lookUp name target) :=
  .bind (.ask _) fun _ => .bind (.orMissing _ _) fun _ => .bind (route_confined target)
    fun _ => .pure _

/-- Preparing counts the call, and does nothing else but open direct messages. -/
theorem prepare_leaves : ∃ new : List Event,
    ((prepare name target).perform env s).2 =
      { counted env s with log := new ++ (counted env s).log } ∧
    ∀ e ∈ new, ∃ c succeeded, (∃ user, c = .openDirect user) ∧ e = .called c succeeded := by
  rw [perform_prepare]
  rcases refusal? name env s with _ | fault
  · exact (lookUp_confined name target).asks env (counted env s)
  · exact ⟨[], rfl, by simp⟩

theorem prepare_frame : ((prepare name target).perform env s).2.frame = s.frame := by
  obtain ⟨new, hLeaves, -⟩ := prepare_leaves name target env s
  rw [hLeaves]
  rfl

theorem prepare_bag : ((prepare name target).perform env s).2.bag = s.bag := by
  obtain ⟨new, hLeaves, -⟩ := prepare_leaves name target env s
  rw [hLeaves]
  rfl

theorem prepare_ledger :
    ((prepare name target).perform env s).2.ledger = s.ledger.charge nestedKey := by
  obtain ⟨new, hLeaves, -⟩ := prepare_leaves name target env s
  rw [hLeaves]
  rfl

theorem prepare_patterns : ((prepare name target).perform env s).2.patterns = s.patterns := by
  obtain ⟨new, hLeaves, -⟩ := prepare_leaves name target env s
  rw [hLeaves]
  rfl

/-- A call that has been prepared: nothing was against it, and its template was found. -/
structure Prepared (name : String) (env : Environment) (s : Session) (t : Template)
    (frame : Frame) : Prop where
  granted : nestedCount s ≤ env.limits.nestedCalls
  named : name.isEmpty = false
  outer : s.frame.isNested = false
  found : env.host.template name = some t
  frame : ∃ channel direct, frame = .nested channel t direct

theorem prepared_of_perform {t : Template} {frame : Frame} {ready : Session}
    (h : (prepare name target).perform env s = (.ok (t, frame), ready)) :
    Prepared name env s t frame := by
  obtain ⟨hNone, hLookUp⟩ := perform_prepare_eq_ok name target env s h
  obtain ⟨hGranted, hNamed, hOuter⟩ := refusal?_eq_none name env s hNone
  obtain ⟨hTemplate, channel, direct, -, rfl⟩ := perform_lookUp_eq_ok name target env _ hLookUp
  exact ⟨hGranted, hNamed, hOuter, hTemplate, channel, direct, rfl⟩

/-! ### Where the body starts -/

/-- The template of a nested call and the session in which its body starts, if it does. -/
def bodyStart? : Option (Template × Session) :=
  match (prepare name target).perform env s with
  | (.ok (t, frame), ready) =>
    match (expose arguments).perform env { ready with frame := frame } with
    | (.ok (), exposed) => some (t, exposed.noting (.began frame))
    | (.error _, _) => none
  | (.error _, _) => none

theorem perform_expose :
    (expose arguments).perform env s = match nestedArguments env.limits s.bag arguments with
      | .ok value => (.ok (), { s with bag := Entries.insert argumentsKey value s.bag })
      | .error fault => (.error fault, s) := by
  simp only [expose, perform_bind, perform_ask, perform_look, perform_ofExcept]
  rcases nestedArguments env.limits s.bag arguments with _ | value <;> rfl

/-- A body starts after a prepared call, in a frame of its own and with its arguments in the data
bag. -/
theorem bodyStart?_eq_some {t : Template} {start : Session}
    (h : bodyStart? name target arguments env s = some (t, start)) :
    ∃ frame ready value, (prepare name target).perform env s = (.ok (t, frame), ready) ∧
      nestedArguments env.limits s.bag arguments = .ok value ∧
      start = { ready with
        frame := frame
        bag := Entries.insert argumentsKey value s.bag
        log := .began frame :: ready.log } := by
  rw [bodyStart?] at h
  rcases hPrepare : (prepare name target).perform env s with ⟨_ | ⟨found, frame⟩, ready⟩
  · simp [hPrepare] at h
  · have hBag : ready.bag = s.bag := by
      rw [← prepare_bag name target env s, hPrepare]
    simp only [hPrepare, perform_expose, hBag] at h
    rcases hValue : nestedArguments env.limits s.bag arguments with fault | value
    · simp [hValue] at h
    · simp only [hValue, Option.some.injEq, Prod.mk.injEq] at h
      obtain ⟨rfl, rfl⟩ := h
      exact ⟨frame, ready, value, rfl, rfl, rfl⟩

/-- What follows the body of a nested call: its output is delivered, unless it failed. -/
def deliver (output : Except Fault String) : Script Value := do
  let sent ← respond (← ofExcept output)
  return .text ((sent.map toString).getD "")

theorem perform_body_deliver (engine : Engine) (t : Template) :
    (do
      let output ← body engine t
      let sent ← respond output
      return .text ((sent.map toString).getD "") : Script Value).perform env s =
      let done := (engine t).perform env (s.noting (.began s.frame))
      (deliver done.1).perform env (done.2.noting (.ended done.2.frame)) := by
  simp only [body, deliver, perform_bind, perform_look, perform_note, perform_outcome,
    perform_ofExcept]

/-- A call whose body starts runs the body, delivers the output, and restores the frame and the
arguments of the caller. -/
theorem perform_nested_of_start (engine : Engine) {t : Template} {start : Session}
    (h : bodyStart? name target arguments env s = some (t, start)) :
    (nested engine name target arguments).perform env s =
      let done := (engine t).perform env start
      let last := (deliver done.1).perform env (done.2.noting (.ended done.2.frame))
      (last.1, { last.2 with
        frame := s.frame, bag := restoreEntry argumentsKey s.bag last.2.bag }) := by
  obtain ⟨frame, ready, value, hPrepare, hValue, rfl⟩ :=
    bodyStart?_eq_some name target arguments env s h
  have hFrame : ready.frame = s.frame := by rw [← prepare_frame name target env s, hPrepare]
  have hBag : ready.bag = s.bag := by rw [← prepare_bag name target env s, hPrepare]
  have hRun := perform_body_deliver env
    { ready with frame := frame, bag := Entries.insert argumentsKey value s.bag } engine t
  rw [nested, perform_bind, hPrepare]
  simp only [perform_within, hFrame, hBag]
  rw [perform_bind, perform_expose]
  simp only [hValue]
  rw [hRun]
  rfl

theorem get?_restoreEntry_same (key other : String) (bag : TextDict) :
    Entries.get? other (restoreEntry key bag bag) = Entries.get? other bag := by
  by_cases h : other = key
  · rw [h]
    exact get?_restoreEntry_self key bag bag
  · exact get?_restoreEntry_of_ne h bag bag

/-- A call whose body does not start fails in the same way whatever would have rendered it.  It does
no more than prepare, and leaves the frame and every entry of the data bag as they are. -/
theorem perform_nested_of_none (h : bodyStart? name target arguments env s = none) :
    ∃ fault bag, (∀ engine, (nested engine name target arguments).perform env s = (.error fault,
        { ((prepare name target).perform env s).2 with frame := s.frame, bag := bag })) ∧
      ∀ key, Entries.get? key bag = Entries.get? key s.bag := by
  have hFrame := prepare_frame name target env s
  have hBag := prepare_bag name target env s
  rcases hPrepare : (prepare name target).perform env s with ⟨fault | ⟨t, frame⟩, ready⟩
  · rw [hPrepare] at hFrame hBag
    refine ⟨fault, s.bag, fun engine => ?_, fun key => rfl⟩
    rw [nested, perform_bind, hPrepare, ← hFrame, ← hBag]
  · rw [hPrepare] at hFrame hBag
    simp only at hFrame hBag
    rw [bodyStart?, hPrepare] at h
    simp only [perform_expose, hBag] at h
    rcases hValue : nestedArguments env.limits s.bag arguments with fault | value
    · refine ⟨fault, restoreEntry argumentsKey s.bag s.bag, fun engine => ?_,
        fun key => get?_restoreEntry_same argumentsKey key s.bag⟩
      rw [nested, perform_bind, hPrepare]
      simp only [perform_within, hFrame, hBag]
      rw [perform_bind, perform_expose]
      simp only [hValue]
    · simp [hValue] at h

theorem respond_confined (output : String) :
    Confined (.asking fun c => ∃ frame text, c = .sendResponse frame text) (respond output) := by
  refine .bind (.look _) fun frame => ?_
  split
  · exact .pure _
  · exact .call ⟨frame, output, rfl⟩

/-- Delivering the output of a body does nothing but send a response. -/
theorem deliver_leaves (output : Except Fault String) : ∃ new : List Event,
    ((deliver output).perform env s).2 = { s with log := new ++ s.log } ∧
    ∀ e ∈ new, ∃ c succeeded, (∃ frame text, c = .sendResponse frame text) ∧
      e = .called c succeeded := by
  cases output with
  | error fault => exact ⟨[], rfl, by simp⟩
  | ok text =>
    have hRest : Confined (.asking fun c => ∃ frame text, c = .sendResponse frame text)
        (deliver (.ok text)) :=
      .bind (.ofExcept fun _ h => nomatch h) fun _ => .bind (respond_confined _) fun _ => .pure _
    exact hRest.asks env s

/-! ### What the caller finds -/

/-- Every nested call leaves its caller in the frame and with the arguments that it had, whatever
becomes of the call and whatever its body does.  All other data are as the body left them, or as
they were if no body started, and then the call failed in the same way for every engine. -/
theorem nested_restores (engine : Engine) :
    let after := ((nested engine name target arguments).perform env s).2
    after.frame = s.frame ∧
    Entries.get? argumentsKey after.bag = Entries.get? argumentsKey s.bag ∧
    match bodyStart? name target arguments env s with
    | some (t, start) => ∀ key, key ≠ argumentsKey →
        Entries.get? key after.bag = Entries.get? key ((engine t).perform env start).2.bag
    | none => (∀ key, Entries.get? key after.bag = Entries.get? key s.bag) ∧
        ∃ fault, ∀ other : Engine,
          (nested other name target arguments).perform env s = (.error fault, after) := by
  rcases hStart : bodyStart? name target arguments env s with _ | ⟨t, start⟩
  · obtain ⟨fault, bag, hPerform, hBag⟩ :=
      perform_nested_of_none name target arguments env s hStart
    rw [hPerform engine]
    exact ⟨rfl, hBag argumentsKey, hBag, fault, hPerform⟩
  · rw [perform_nested_of_start name target arguments env s engine hStart]
    refine ⟨rfl, get?_restoreEntry_self argumentsKey s.bag _, fun key hKey => ?_⟩
    obtain ⟨new, hLast, -⟩ := deliver_leaves env
      (((engine t).perform env start).2.noting (.ended ((engine t).perform env start).2.frame))
      ((engine t).perform env start).1
    show Entries.get? key (restoreEntry argumentsKey s.bag _) = _
    rw [get?_restoreEntry_of_ne hKey, hLast]
    rfl

/-- An execution in one channel, on a platform that does nothing but answer and knows one
template. -/
def sampleEnvironment : Environment where
  trigger := ⟨1, some ⟨10, "general", false⟩, none, some 5, .command, false⟩
  limits := .default
  host := Rehearsal.host ⟨[], [], 0, [], false, ["child"]⟩

/-- A call gets as far as its body. -/
example :
    (bodyStart? "child" (.channel none) [] sampleEnvironment sampleEnvironment.start).isSome := by
  decide

end Script

end BotScript
