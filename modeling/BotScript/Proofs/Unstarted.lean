import BotScript.Proofs.Delivery

/-! Nested calls whose body does not start.  `Unstarted` lists the reasons, with what the platform
was asked before, and `bodyStart?_eq_none_iff` says that there are no others.  Some reasons are
found in the caller's frame and some in the frame of the body, but the main statement is the same
for all: one more call is counted, and nothing else about the execution has changed. -/

namespace BotScript.Script

/-- The reasons for which no channel is found, and what the platform was asked before. -/
inductive Unrouted (env : Environment) (s : Session) : Target → Fault → List Event → Prop
  | leave (hOrigin : env.trigger.origin = .leave) :
      Unrouted env s .member (.invalid .messageOnLeave) []
  | memberless (hOrigin : env.trigger.origin ≠ .leave)
      (hOther : ¬(s.frame.sendInDirect = true ∧ s.frame.channel.isSome = true))
      (hMember : env.trigger.member = none) :
      Unrouted env s .member (.missing .triggerMember) []
  | unopened {member : Member} {fault : Fault} (hOrigin : env.trigger.origin ≠ .leave)
      (hOther : ¬(s.frame.sendInDirect = true ∧ s.frame.channel.isSome = true))
      (hMember : env.trigger.member = some member)
      (hAnswer : env.host.answer s.log (.openDirect member.user) = .error fault) :
      Unrouted env s .member fault [.called (.openDirect member.user) false]
  | nowhere (hChannel : s.frame.channel = none) :
      Unrouted env s (.channel none) (.missing .channel) []
  | unknown {query : Value} (hFound : env.host.channel query = none) :
      Unrouted env s (.channel (some query)) (.missing (.channelMatching query.print)) []

/-- A direct message for the member of a trigger. -/
def openFor (trigger : Trigger) (direct : Bool) : Script (Channel × Bool) := do
  let member ← orMissing .triggerMember trigger.member
  let channel ← call (.openDirect member.user)
  return (channel, direct)

section Routes

variable {env : Environment} {s : Session}

theorem perform_route_on_leave (h : env.trigger.origin = .leave) :
    (route .member).perform env s = (.error (.invalid .messageOnLeave), s) := by
  simp [route, h]

theorem perform_route_inherited (hOrigin : env.trigger.origin ≠ .leave) {channel : Channel}
    (hDirect : s.frame.sendInDirect = true) (hChannel : s.frame.channel = some channel) :
    (route .member).perform env s = (.ok (channel, true), s) := by
  simp [route, hOrigin, hDirect, hChannel]

theorem perform_route_other (hOrigin : env.trigger.origin ≠ .leave)
    (hOther : ¬(s.frame.sendInDirect = true ∧ s.frame.channel.isSome = true)) :
    (route .member).perform env s =
      (openFor env.trigger s.frame.sendInDirect).perform env s := by
  rcases hDirect : s.frame.sendInDirect with _ | _
  · simp [route, hOrigin, hDirect, openFor]
  · rcases hChannel : s.frame.channel with _ | channel
    · simp [route, hOrigin, hDirect, hChannel, openFor]
    · exact absurd ⟨hDirect, by rw [hChannel]; rfl⟩ hOther

theorem perform_route_of_routed {target : Target} {channel : Channel} {direct : Bool}
    {opened : List Call} (hOrigin : target = .member → env.trigger.origin ≠ .leave)
    (h : Routed env s target channel direct opened) :
    (route target).perform env s =
      (.ok (channel, direct), { s with log := answered opened ++ s.log }) := by
  cases h with
  | inherited hDirect hChannel => exact perform_route_inherited (hOrigin rfl) hDirect hChannel
  | opened hOther hMember hAnswer =>
    rw [perform_route_other (hOrigin rfl) hOther, openFor, hMember]
    show (call _ >>= _).perform env s = _
    rw [perform_bind, perform_call, hAnswer]
    rfl
  | current hChannel =>
    show (orMissing .channel s.frame.channel >>= _).perform env s = _
    rw [hChannel]
    rfl
  | named hFound =>
    show (orMissing _ (env.host.channel _) >>= _).perform env s = _
    rw [hFound]
    rfl

theorem perform_route_of_unrouted {target : Target} {fault : Fault} {made : List Event}
    (h : Unrouted env s target fault made) :
    (route target).perform env s = (.error fault, { s with log := made ++ s.log }) := by
  cases h with
  | leave hOrigin => exact perform_route_on_leave hOrigin
  | memberless hOrigin hOther hMember =>
    rw [perform_route_other hOrigin hOther, openFor, hMember]
    rfl
  | unopened hOrigin hOther hMember hAnswer =>
    rw [perform_route_other hOrigin hOther, openFor, hMember]
    show (call _ >>= _).perform env s = _
    rw [perform_bind, perform_call, hAnswer]
    rfl
  | nowhere hChannel =>
    show (orMissing .channel s.frame.channel >>= _).perform env s = _
    rw [hChannel]
    rfl
  | unknown hFound =>
    show (orMissing _ (env.host.channel _) >>= _).perform env s = _
    rw [hFound]
    rfl

/-- A channel is found for a target, or there is one of the reasons against it. -/
theorem routed_or_unrouted (env : Environment) (s : Session) (target : Target) :
    (∃ channel direct opened, (target = .member → env.trigger.origin ≠ .leave) ∧
      Routed env s target channel direct opened) ∨
    ∃ fault made, Unrouted env s target fault made := by
  cases target with
  | member =>
    by_cases hOrigin : env.trigger.origin = .leave
    · exact .inr ⟨_, _, .leave hOrigin⟩
    by_cases hBoth : s.frame.sendInDirect = true ∧ s.frame.channel.isSome = true
    · obtain ⟨channel, hChannel⟩ := Option.isSome_iff_exists.mp hBoth.2
      exact .inl ⟨channel, true, [], fun _ => hOrigin, .inherited hBoth.1 hChannel⟩
    rcases hMember : env.trigger.member with _ | member
    · exact .inr ⟨_, _, .memberless hOrigin hBoth hMember⟩
    rcases hAnswer : env.host.answer s.log (.openDirect member.user) with fault | channel
    · exact .inr ⟨_, _, .unopened hOrigin hBoth hMember hAnswer⟩
    · exact .inl ⟨channel, _, _, fun _ => hOrigin, .opened hBoth hMember hAnswer⟩
  | channel query =>
    cases query with
    | none =>
      rcases hChannel : s.frame.channel with _ | channel
      · exact .inr ⟨_, _, .nowhere hChannel⟩
      · exact .inl ⟨channel, _, _, nofun, .current hChannel⟩
    | some query =>
      rcases hFound : env.host.channel query with _ | channel
      · exact .inr ⟨_, _, .unknown hFound⟩
      · exact .inl ⟨channel, _, _, nofun, .named hFound⟩

end Routes

/-- The reasons for which the body of a nested call does not start, and what the platform was asked
before. -/
inductive Unstarted (name : String) (target : Target) (arguments : List Value) (env : Environment)
    (s : Session) : Fault → List Event → Prop
  | refused {fault : Fault} (hRefused : refusal? name env s = some fault) :
      Unstarted name target arguments env s fault []
  | unknown (hGranted : refusal? name env s = none) (hTemplate : env.host.template name = none) :
      Unstarted name target arguments env s (.missing (.template name)) []
  | unrouted {t : Template} {fault : Fault} {made : List Event}
      (hGranted : refusal? name env s = none) (hTemplate : env.host.template name = some t)
      (hRoute : Unrouted env (counted env s) target fault made) :
      Unstarted name target arguments env s fault made
  | unsuited {t : Template} {channel : Channel} {direct : Bool} {opened : List Call} {fault : Fault}
      (hGranted : refusal? name env s = none) (hTemplate : env.host.template name = some t)
      (hOrigin : target = .member → env.trigger.origin ≠ .leave)
      (hRoute : Routed env (counted env s) target channel direct opened)
      (hArguments : nestedArguments env.limits s.bag arguments = .error fault) :
      Unstarted name target arguments env s fault (answered opened)

section Calls

variable {name : String} {target : Target} {arguments : List Value} {env : Environment}
  {s : Session}

theorem perform_prepare_of_unknown (hGranted : refusal? name env s = none)
    (hTemplate : env.host.template name = none) :
    (prepare name target).perform env s =
      (.error (.missing (.template name)), counted env s) := by
  rw [perform_prepare, hGranted]
  show (orMissing (.template name) (env.host.template name) >>= _).perform env (counted env s) = _
  rw [hTemplate]
  rfl

theorem perform_prepare_of_known (hGranted : refusal? name env s = none) {t : Template}
    (hTemplate : env.host.template name = some t) :
    (prepare name target).perform env s = (do
      let (channel, direct) ← route target
      return (t, .nested channel t direct) : Script (Template × Frame)).perform env
        (counted env s) := by
  rw [perform_prepare, hGranted]
  show (orMissing (.template name) (env.host.template name) >>= _).perform env (counted env s) = _
  rw [hTemplate]
  rfl

theorem perform_prepare_of_routed (hGranted : refusal? name env s = none) {t : Template}
    (hTemplate : env.host.template name = some t)
    (hOrigin : target = .member → env.trigger.origin ≠ .leave) {channel : Channel} {direct : Bool}
    {opened : List Call} (hRoute : Routed env (counted env s) target channel direct opened) :
    (prepare name target).perform env s = (.ok (t, .nested channel t direct),
      { counted env s with log := answered opened ++ (counted env s).log }) := by
  rw [perform_prepare_of_known hGranted hTemplate, perform_bind,
    perform_route_of_routed hOrigin hRoute]
  rfl

theorem perform_prepare_of_unrouted (hGranted : refusal? name env s = none) {t : Template}
    (hTemplate : env.host.template name = some t) {fault : Fault} {made : List Event}
    (hRoute : Unrouted env (counted env s) target fault made) :
    (prepare name target).perform env s = (.error fault,
      { counted env s with log := made ++ (counted env s).log }) := by
  rw [perform_prepare_of_known hGranted hTemplate, perform_bind,
    perform_route_of_unrouted hRoute]

/-- A body starts unless there is one of the reasons against it. -/
theorem bodyStart?_eq_none_iff : bodyStart? name target arguments env s = none ↔
    ∃ fault made, Unstarted name target arguments env s fault made := by
  constructor
  · intro h
    rcases hRefusal : refusal? name env s with _ | fault
    · rcases hTemplate : env.host.template name with _ | t
      · exact ⟨_, _, .unknown hRefusal hTemplate⟩
      rcases routed_or_unrouted env (counted env s) target with
        ⟨channel, direct, opened, hOrigin, hRoute⟩ | ⟨fault, made, hRoute⟩
      · rcases hArguments : nestedArguments env.limits s.bag arguments with fault | value
        · exact ⟨_, _, .unsuited hRefusal hTemplate hOrigin hRoute hArguments⟩
        · have hBag : (counted env s).bag = s.bag := rfl
          rw [bodyStart?, perform_prepare_of_routed hRefusal hTemplate hOrigin hRoute] at h
          simp [perform_expose, hBag, hArguments] at h
      · exact ⟨_, _, .unrouted hRefusal hTemplate hRoute⟩
    · exact ⟨_, _, .refused hRefusal⟩
  · rintro ⟨fault, made, h⟩
    unfold bodyStart?
    cases h with
    | refused hRefused => rw [perform_prepare, hRefused]
    | unknown hGranted hTemplate => rw [perform_prepare_of_unknown hGranted hTemplate]
    | unrouted hGranted hTemplate hRoute =>
      rw [perform_prepare_of_unrouted hGranted hTemplate hRoute]
    | unsuited hGranted hTemplate hOrigin hRoute hArguments =>
      have hBag : (counted env s).bag = s.bag := rfl
      rw [perform_prepare_of_routed hGranted hTemplate hOrigin hRoute]
      simp [perform_expose, hBag, hArguments]

/-! ### What is left -/

theorem ascending_restoreEntry (key : String) (before : TextDict) {after : TextDict}
    (h : Entries.Ascending after) : Entries.Ascending (restoreEntry key before after) := by
  unfold restoreEntry
  split
  · exact Entries.ascending_insert h
  · exact Entries.ascending_erase h

theorem restoreEntry_same (key : String) {bag : TextDict} (h : Entries.Ascending bag) :
    restoreEntry key bag bag = bag :=
  Entries.eq_of_get? (ascending_restoreEntry key bag h) h fun other =>
    get?_restoreEntry_same key other bag

/-- One more nested call has been counted, and nothing else about the execution has changed. -/
structure OnlyCounted (s after : Session) : Prop where
  frame : after.frame = s.frame
  data : ∀ key, Entries.get? key after.bag = Entries.get? key s.bag
  bag : Entries.Ascending s.bag → after.bag = s.bag
  patterns : after.patterns = s.patterns
  ledger : after.ledger = { s.ledger with counts := after.ledger.counts }
  count : after.ledger.count nestedKey = min Ledger.maxCount (s.ledger.count nestedKey + 1)
  others : ∀ key, key ≠ nestedKey → after.ledger.count key = s.ledger.count key

/-- What it takes for a direct message to be opened for a nested call. -/
structure Opens (name : String) (target : Target) (env : Environment) (s : Session)
    (member : Member) : Prop where
  target : target = .member
  other : ¬(s.frame.sendInDirect = true ∧ s.frame.channel.isSome = true)
  origin : env.trigger.origin ≠ .leave
  present : env.trigger.member = some member
  template : (env.host.template name).isSome = true

theorem onlyCounted_of_bag (env : Environment) (s : Session) (made : List Event) {bag : TextDict}
    (hData : ∀ key, Entries.get? key bag = Entries.get? key s.bag)
    (hBag : Entries.Ascending s.bag → bag = s.bag) :
    OnlyCounted s { counted env s with bag := bag, log := made ++ (counted env s).log } where
  frame := rfl
  data := hData
  bag := hBag
  patterns := rfl
  ledger := rfl
  count := Ledger.count_charge_self s.ledger nestedKey
  others _ hKey := Ledger.count_charge_of_ne s.ledger nestedKey hKey

theorem perform_nested_of_fault {fault : Fault} {ready : Session}
    (h : (prepare name target).perform env s = (.error fault, ready)) (engine : Engine) :
    (nested engine name target arguments).perform env s = (.error fault, ready) := by
  rw [nested, perform_bind, h]

/-- A call whose body does not start fails for the same reason whatever would have rendered it. -/
theorem perform_nested_of_unstarted {fault : Fault} {made : List Event}
    (h : Unstarted name target arguments env s fault made) :
    ∃ bag, (∀ key, Entries.get? key bag = Entries.get? key s.bag) ∧
      (Entries.Ascending s.bag → bag = s.bag) ∧
      ∀ engine, (nested engine name target arguments).perform env s = (.error fault,
        { counted env s with bag := bag, log := made ++ (counted env s).log }) := by
  cases h with
  | refused hRefused =>
    refine ⟨s.bag, fun _ => rfl, fun _ => rfl, perform_nested_of_fault ?_⟩
    rw [perform_prepare, hRefused]
    rfl
  | unknown hGranted hTemplate =>
    exact ⟨s.bag, fun _ => rfl, fun _ => rfl,
      perform_nested_of_fault (perform_prepare_of_unknown hGranted hTemplate)⟩
  | unrouted hGranted hTemplate hRoute =>
    exact ⟨s.bag, fun _ => rfl, fun _ => rfl,
      perform_nested_of_fault (perform_prepare_of_unrouted hGranted hTemplate hRoute)⟩
  | unsuited hGranted hTemplate hOrigin hRoute hArguments =>
    -- The frame of the body has been entered already, and the entry of the arguments is put back.
    refine ⟨restoreEntry argumentsKey s.bag s.bag,
      fun key => get?_restoreEntry_same argumentsKey key s.bag,
      restoreEntry_same argumentsKey, fun engine => ?_⟩
    have hBag : (counted env s).bag = s.bag := rfl
    rw [nested, perform_bind, perform_prepare_of_routed hGranted hTemplate hOrigin hRoute]
    simp only [perform_within]
    rw [perform_bind, perform_expose]
    simp only [hBag, hArguments]

/-- A direct message is opened only for a member to whom no message is open, and only for a template
that is known. -/
theorem Unstarted.calls {fault : Fault} {made : List Event}
    (h : Unstarted name target arguments env s fault made) :
    callsOf made = [] ∨
      ∃ member, callsOf made = [.openDirect member.user] ∧ Opens name target env s member := by
  cases h with
  | refused _ => exact .inl rfl
  | unknown _ _ => exact .inl rfl
  | unrouted _ hTemplate hRoute =>
    cases hRoute with
    | unopened hOrigin hOther hMember _ =>
      have hKnown : (env.host.template name).isSome = true := by rw [hTemplate]; rfl
      exact .inr ⟨_, rfl, rfl, hOther, hOrigin, hMember, hKnown⟩
    | leave _ | memberless _ _ _ | nowhere _ | unknown _ => exact .inl rfl
  | unsuited _ hTemplate hOrigin hRoute _ =>
    rw [callsOf_answered]
    cases hRoute with
    | opened hOther hMember _ =>
      have hKnown : (env.host.template name).isSome = true := by rw [hTemplate]; rfl
      exact .inr ⟨_, rfl, rfl, hOther, hOrigin rfl, hMember, hKnown⟩
    | inherited _ _ | current _ | named _ => exact .inl rfl

/-- A nested call whose body does not start fails for one of the reasons there are, one more call is
counted, and nothing else about the execution has changed.  The platform has been asked for a direct
message at most. -/
theorem nested_unstarted (h : bodyStart? name target arguments env s = none) :
    ∃ fault made, Unstarted name target arguments env s fault made ∧
      (∀ engine : Engine,
        let (result, after) := (nested engine name target arguments).perform env s
        result = .error fault ∧ OnlyCounted s after ∧
          ∃ granted, after.log = made ++ .demanded (nestedDemand env.limits) granted :: s.log) ∧
      (callsOf made = [] ∨
        ∃ member, callsOf made = [.openDirect member.user] ∧ Opens name target env s member) := by
  obtain ⟨fault, made, hUnstarted⟩ := bodyStart?_eq_none_iff.mp h
  obtain ⟨bag, hData, hBag, hPerform⟩ := perform_nested_of_unstarted hUnstarted
  refine ⟨fault, made, hUnstarted, fun engine => ?_, hUnstarted.calls⟩
  rw [hPerform engine]
  exact ⟨rfl, onlyCounted_of_bag env s made hData hBag, _, rfl⟩

end Calls

/-- An execution for a member in which a nested template has left its arguments. -/
def visited : Session :=
  { memberEnvironment.start with bag := [(argumentsKey, .text "old"), ("x", .int 1)] }

/-- A direct message is opened before three arguments are found to be no keys and values in turn. -/
theorem nested_unstarted_of_odd_arguments :
    let arguments : List Value := [.text "a", .int 1, .text "b"]
    let (result, after) := (nested announcement "child" .member arguments).perform
      memberEnvironment visited
    bodyStart? "child" .member arguments memberEnvironment visited = none ∧
      (∃ fault, result = .error fault) ∧ OnlyCounted visited after ∧
      callsOf after.log = [.openDirect 7] ∧ after.bag = visited.bag := by
  intro arguments
  have hNone : bodyStart? "child" .member arguments memberEnvironment visited = none :=
    Option.isNone_iff_eq_none.mp (by decide)
  obtain ⟨fault, made, -, hLeaves, -⟩ := nested_unstarted hNone
  obtain ⟨hResult, hOnly, -⟩ := hLeaves announcement
  have hBag : Entries.Ascending visited.bag := by
    unfold Entries.Ascending
    decide
  exact ⟨hNone, ⟨fault, hResult⟩, hOnly, by decide, hOnly.bag hBag⟩

end BotScript.Script
