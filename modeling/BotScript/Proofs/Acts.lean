import BotScript.Proofs.Ledger.Grants
import BotScript.Proofs.Runs

/-! Which functions a run calls.  `Enacts env x s acts` says that a script which runs from the
session `s` makes the calls `acts` of functions, the latest first, in the bodies of nested templates
as well as outside.  Every composed script enacts something: `Composed.enacts`.  What happens in a
run is what happens in these calls, but for what nested calls and responses add of their own, and
all of it is booked: `Enacts.records`. -/

namespace BotScript

open Script

/-- A call of a function: the sessions before and after it. -/
structure Act where
  function : Builtin
  before : Session
  after : Session

namespace Act

/-- What happened during the call, the latest first. -/
def events (a : Act) : List Event := a.after.log.take (a.after.log.length - a.before.log.length)

/-- How many reactions the call has added to the response. -/
def pushed (a : Act) : Nat := a.after.frame.reactions.length - a.before.frame.reactions.length

theorem events_eq {a : Act} {new : List Event} (h : a.after.log = new ++ a.before.log) :
    a.events = new := by
  simp [events, h]

end Act

/-- Whether a function runs a nested template, which is all that it does. -/
def Builtin.runsTemplate : Builtin → Bool
  | sendTemplate | sendTemplateDM => true
  | _ => false

theorem Builtin.confined_of_own (engine : Engine) {b : Builtin} (hOwn : b.runsTemplate = false)
    (arguments : List Value) : Confined (b.powers arguments) (b.run engine arguments) := by
  refine b.run_confined engine (fun h => ?_) (fun h => ?_) arguments
  · rw [h] at hOwn
    exact nomatch hOwn
  · rw [h] at hOwn
    exact nomatch hOwn

/-- The calls of functions, the latest first, that a script makes which runs from a session.  A
function that runs a nested template makes no call itself, but those of the body, if it starts. -/
inductive Enacts (env : Environment) : {α : Type} → Script α → Session → List Act → Prop
  | ofExcept {α : Type} (r : Except Fault α) (s : Session) : Enacts env (Script.ofExcept r) s []
  | ask {α : Type} (f : Environment → α) (s : Session) : Enacts env (ask f) s []
  | look {α : Type} (f : Session → α) (s : Session) : Enacts env (look f) s []
  | respond (output : String) (s : Session) : Enacts env (respond output) s []
  | editBag (f : TextDict → TextDict) (s : Session) : Enacts env (editBag f) s []
  | editFrame (f : Frame → Frame) (s : Session) : Enacts env (editFrame f) s []
  | goesOn {α β : Type} {x : Script α} {f : α → Script β} {s after : Session} {a : α}
      {acts more : List Act} (hx : Enacts env x s acts)
      (hPerform : x.perform env s = (.ok a, after)) (hf : Enacts env (f a) after more) :
      Enacts env (x >>= f) s (more ++ acts)
  | stops {α β : Type} {x : Script α} {f : α → Script β} {s after : Session} {fault : Fault}
      {acts : List Act} (hx : Enacts env x s acts)
      (hPerform : x.perform env s = (.error fault, after)) : Enacts env (x >>= f) s acts
  | outcome {α : Type} {x : Script α} {s : Session} {acts : List Act} (hx : Enacts env x s acts) :
      Enacts env (outcome x) s acts
  | function (engine : Engine) {b : Builtin} (hOwn : b.runsTemplate = false)
      (arguments : List Value) (s : Session) : Enacts env (b.run engine arguments) s
        [⟨b, s, ((b.run engine arguments).perform env s).2⟩]
  | refused (engine : Engine) {name : String} {target : Target} {arguments : List Value}
      {s : Session} (hStart : bodyStart? name target arguments env s = none) :
      Enacts env (nested engine name target arguments) s []
  | entered {engine : Engine} {name : String} {target : Target} {arguments : List Value}
      {s start : Session} {t : Template} {acts : List Act}
      (hStart : bodyStart? name target arguments env s = some (t, start))
      (hBody : Enacts env (engine t) start acts) :
      Enacts env (nested engine name target arguments) s acts
  | run {engine : Engine} {t : Template} {s : Session} {acts : List Act}
      (h : Enacts env (engine t) { s with frame := { s.frame with template := some t } } acts) :
      Enacts env (run engine t) s acts

/-! ### Every composed script enacts something -/

section Existence

variable {env : Environment} {s : Session}

theorem enacts_bind {α β : Type} {x : Script α} {f : α → Script β}
    (hx : ∃ acts, Enacts env x s acts) (hf : ∀ a after, ∃ acts, Enacts env (f a) after acts) :
    ∃ acts, Enacts env (x >>= f) s acts := by
  obtain ⟨acts, hActs⟩ := hx
  rcases hPerform : x.perform env s with ⟨fault | a, after⟩
  · exact ⟨acts, .stops hActs hPerform⟩
  · obtain ⟨more, hMore⟩ := hf a after
    exact ⟨more ++ acts, .goesOn hActs hPerform hMore⟩

theorem enacts_nested {engine : Engine}
    (hEngine : ∀ t start, ∃ acts, Enacts env (engine t) start acts) (name : String)
    (target : Target) (arguments : List Value) :
    ∃ acts, Enacts env (nested engine name target arguments) s acts := by
  rcases hStart : bodyStart? name target arguments env s with _ | ⟨t, start⟩
  · exact ⟨[], .refused engine hStart⟩
  · obtain ⟨acts, hActs⟩ := hEngine t start
    exact ⟨acts, .entered hStart hActs⟩

theorem enacts_builtin {engine : Engine}
    (hEngine : ∀ t start, ∃ acts, Enacts env (engine t) start acts) (b : Builtin)
    (arguments : List Value) : ∃ acts, Enacts env (b.run engine arguments) s acts := by
  rcases hOwn : b.runsTemplate with _ | _
  · exact ⟨_, .function engine hOwn arguments s⟩
  · cases b with
    | sendTemplate =>
      exact enacts_bind ⟨[], .ofExcept _ s⟩ fun _ _ => enacts_nested hEngine _ _ _
    | sendTemplateDM =>
      exact enacts_bind ⟨[], .ofExcept _ s⟩ fun _ _ => enacts_nested hEngine _ _ _
    | _ => exact nomatch hOwn

theorem Composed.enacts {α : Type} {x : Script α} (hx : Composed x) (env : Environment)
    (s : Session) : ∃ acts, Enacts env x s acts := by
  induction hx generalizing s with
  | pure a => exact ⟨[], .ofExcept (.ok a) s⟩
  | throw fault => exact ⟨[], .ofExcept (.error fault) s⟩
  | bind _ _ ihx ihf => exact enacts_bind (ihx s) ihf
  | outcome _ ih =>
    obtain ⟨acts, hActs⟩ := ih s
    exact ⟨acts, .outcome hActs⟩
  | ask f => exact ⟨[], .ask f s⟩
  | look f => exact ⟨[], .look f s⟩
  | builtin _ b arguments ih => exact enacts_builtin (fun t start => ih t start) b arguments
  | nested _ name target arguments ih =>
    exact enacts_nested (fun t start => ih t start) name target arguments
  | @run engine t _ ih =>
    obtain ⟨acts, hActs⟩ := ih { s with frame := { s.frame with template := some t } }
    exact ⟨acts, .run hActs⟩
  | respond output => exact ⟨[], .respond output s⟩
  | editBag f => exact ⟨[], .editBag f s⟩
  | @editFrame f _ => exact ⟨[], .editFrame f s⟩

end Existence

/-! ### What happens in a run -/

/-- What nested calls and responses do of their own. -/
def Event.IsAside : Event → Prop
  | .demanded d _ => d.key? = some nestedKey
  | .called c _ => (∃ user, c = .openDirect user) ∨ ∃ frame text, c = .sendResponse frame text
  | .began _ | .ended _ => True
  | .slept _ => False

/-- A call of a function that runs no template, with what it does. -/
def Act.IsOwn (env : Environment) (a : Act) : Prop :=
  a.function.runsTemplate = false ∧ ∃ engine arguments,
    a.after = ((a.function.run engine arguments).perform env a.before).2

/-- A session after one in which the events `new` were booked, the latest first, and these are those
of the calls `acts`, up to order and to asides. -/
structure Records (env : Environment) (s : Session) (acts : List Act) (after : Session)
    (new : List Event) : Prop extends Books s after new where
  own : ∀ a ∈ acts, a.IsOwn env
  shuffled : ∃ asides, new.Perm (acts.flatMap Act.events ++ asides) ∧ ∀ e ∈ asides, e.IsAside

namespace Records

variable {env : Environment} {s s1 s2 s3 after : Session} {acts acts1 acts2 : List Act}
  {new new1 new2 : List Event}

theorem trans (h1 : Records env s1 acts1 s2 new1) (h2 : Records env s2 acts2 s3 new2) :
    Records env s1 (acts2 ++ acts1) s3 (new2 ++ new1) := by
  obtain ⟨asides1, hPerm1, hAsides1⟩ := h1.shuffled
  obtain ⟨asides2, hPerm2, hAsides2⟩ := h2.shuffled
  refine ⟨h1.toBooks.trans h2.toBooks,
    fun a ha => (List.mem_append.mp ha).elim (h2.own a) (h1.own a),
    asides2 ++ asides1, ?_,
    fun e he => (List.mem_append.mp he).elim (hAsides2 e) (hAsides1 e)⟩
  have hSwap : (asides2 ++ (acts1.flatMap Act.events ++ asides1)).Perm
      (acts1.flatMap Act.events ++ (asides2 ++ asides1)) := List.perm_append_comm_assoc _ _ _
  have hBoth : (new2 ++ new1).Perm
      (acts2.flatMap Act.events ++ (asides2 ++ (acts1.flatMap Act.events ++ asides1))) := by
    rw [← List.append_assoc]
    exact hPerm2.append hPerm1
  rw [List.flatMap_append, List.append_assoc]
  exact hBoth.trans (hSwap.append_left _)

theorem of_asides (hBooks : Books s after new) (hNew : ∀ e ∈ new, e.IsAside) :
    Records env s [] after new :=
  ⟨hBooks, by simp, new, .refl _, hNew⟩

theorem of_same (hLog : after.log = s.log) (hLedger : after.ledger = s.ledger) :
    Records env s [] after [] :=
  of_asides (.of_same hLog hLedger) (by simp)

theorem of_calls (hNew : ∀ e ∈ new, ∃ c succeeded,
      ((∃ user, c = .openDirect user) ∨ ∃ frame text, c = .sendResponse frame text) ∧
        e = .called c succeeded) :
    Records env s [] { s with log := new ++ s.log } new := by
  refine of_asides (.of_no_demand (fun e he d answer hd => ?_) rfl rfl) fun e he => ?_
  · obtain ⟨c, succeeded, -, rfl⟩ := hNew e he
    exact nomatch hd
  · obtain ⟨c, succeeded, hCall, rfl⟩ := hNew e he
    exact hCall

/-- Frames and data are not recorded. -/
theorem reframe (h : Records env s acts after new) (frame : Frame) (bag : TextDict) :
    Records env s acts { after with frame := frame, bag := bag } new :=
  ⟨⟨h.log, h.ledger, h.booked⟩, h.own, h.shuffled⟩

end Records

section Steps

variable (name : String) (target : Target) (arguments : List Value) (env : Environment)
  (s : Session)

theorem counted_records : ∃ new, Records env s [] (counted env s) new := by
  refine ⟨[_], .of_asides ⟨rfl, rfl, fun d answer he => ?_, trivial⟩ fun e he => ?_⟩
  · cases he
    show _ = (s.ledger.check nestedKey env.limits.nestedCalls).1.isGranted
    rw [Ledger.isGranted_check, nestedCount, Ledger.count_charge_self]
  · rw [List.mem_singleton.mp he]
    rfl

theorem prepare_records : ∃ new, Records env s [] ((prepare name target).perform env s).2 new := by
  obtain ⟨new1, hCounted⟩ := counted_records env s
  obtain ⟨new2, hLeaves, hNew⟩ := prepare_leaves name target env s
  rw [hLeaves]
  refine ⟨new2 ++ new1, hCounted.trans (.of_calls fun e he => ?_)⟩
  obtain ⟨c, succeeded, hCall, rfl⟩ := hNew e he
  exact ⟨c, succeeded, .inl hCall, rfl⟩

theorem bodyStart_records {t : Template} {start : Session}
    (hStart : bodyStart? name target arguments env s = some (t, start)) :
    ∃ new, Records env s [] start new := by
  obtain ⟨frame, ready, value, hPrepare, -, rfl⟩ :=
    bodyStart?_eq_some name target arguments env s hStart
  obtain ⟨new, hReady⟩ := prepare_records name target env s
  rw [hPrepare] at hReady
  have hBegan : Records env ready [] (ready.noting (.began frame)) [.began frame] :=
    .of_asides (.of_no_demand (by simp) rfl rfl) (by simp [Event.IsAside])
  exact ⟨_, (hReady.trans hBegan).reframe _ _⟩

/-- A body ends, and its output is delivered to the caller. -/
theorem bodyEnd_records (done : Session) (output : Except Fault String) :
    ∃ new, Records env done []
      ((deliver output).perform env (done.noting (.ended done.frame))).2 new := by
  have hEnded : Records env done [] (done.noting (.ended done.frame)) [.ended done.frame] :=
    .of_asides (.of_no_demand (by simp) rfl rfl) (by simp [Event.IsAside])
  obtain ⟨new, hLast, hNew⟩ := deliver_leaves env (done.noting (.ended done.frame)) output
  rw [hLast]
  refine ⟨_, hEnded.trans (.of_calls fun e he => ?_)⟩
  obtain ⟨c, succeeded, hCall, rfl⟩ := hNew e he
  exact ⟨c, succeeded, .inr hCall, rfl⟩

theorem function_records (engine : Engine) {b : Builtin} (hOwn : b.runsTemplate = false) :
    ∃ new, Records env s [⟨b, s, ((b.run engine arguments).perform env s).2⟩]
      ((b.run engine arguments).perform env s).2 new := by
  obtain ⟨new, hBooks⟩ := (b.confined_of_own engine hOwn arguments).books env s
  refine ⟨new, hBooks, fun a ha => ?_, [], ?_, by simp⟩
  · rw [List.mem_singleton.mp ha]
    exact ⟨hOwn, engine, arguments, rfl⟩
  · have hEvents := Act.events_eq (a := ⟨b, s, _⟩) hBooks.log
    rw [List.flatMap_singleton, hEvents, List.append_nil]

end Steps

/-- What happens in a run is booked, and is what happens in the calls of functions that it makes, up
to order and to asides. -/
theorem Enacts.records {env : Environment} {α : Type} {x : Script α} {s : Session} {acts : List Act}
    (h : Enacts env x s acts) : ∃ new, Records env s acts (x.perform env s).2 new := by
  induction h with
  | ofExcept | ask | look | editBag | editFrame => exact ⟨[], .of_same rfl rfl⟩
  | respond output s =>
    obtain ⟨new, hLast, hNew⟩ := (respond_confined output).asks env s
    rw [hLast]
    refine ⟨new, .of_calls fun e he => ?_⟩
    obtain ⟨c, succeeded, hCall, rfl⟩ := hNew e he
    exact ⟨c, succeeded, .inr hCall, rfl⟩
  | goesOn _ hPerform _ ihx ihf =>
    obtain ⟨new1, h1⟩ := ihx
    obtain ⟨new2, h2⟩ := ihf
    rw [hPerform] at h1
    rw [perform_bind, hPerform]
    exact ⟨new2 ++ new1, h1.trans h2⟩
  | stops _ hPerform ihx =>
    rw [hPerform] at ihx
    rw [perform_bind, hPerform]
    exact ihx
  | outcome _ ih =>
    rw [perform_outcome]
    exact ih
  | function engine hOwn arguments s => exact function_records arguments env s engine hOwn
  | @refused engine name target arguments s hStart =>
    obtain ⟨fault, bag, hPerform, -⟩ := perform_nested_of_none name target arguments env s hStart
    obtain ⟨new, hReady⟩ := prepare_records name target env s
    rw [hPerform engine]
    exact ⟨new, hReady.reframe _ _⟩
  | @entered engine name target arguments s start t acts hStart _ ih =>
    -- The acts of the call are those of its body: what comes before and after is aside.
    obtain ⟨new1, hBegin⟩ := bodyStart_records name target arguments env s hStart
    obtain ⟨new2, hBody⟩ := ih
    obtain ⟨new3, hEnd⟩ := bodyEnd_records env ((engine t).perform env start).2
      ((engine t).perform env start).1
    rw [perform_nested_of_start name target arguments env s engine hStart]
    have hAll := ((hBegin.trans hBody).trans hEnd).reframe s.frame
    rw [List.append_nil, List.nil_append] at hAll
    exact ⟨_, hAll _⟩
  | run _ ih =>
    obtain ⟨new, h⟩ := ih
    exact ⟨new, ⟨h.log, h.ledger, h.booked⟩, h.own, h.shuffled⟩

/-! ### The order of calls -/

/-- A session and a later one, where what happened in between is booked. -/
def Precedes (s t : Session) : Prop := ∃ new, Books s t new

theorem Precedes.refl (s : Session) : Precedes s s := ⟨[], .refl s⟩

theorem Precedes.trans {s t u : Session} (h1 : Precedes s t) (h2 : Precedes t u) :
    Precedes s u := by
  obtain ⟨new, hEarlier⟩ := h1
  obtain ⟨more, hLater⟩ := h2
  exact ⟨more ++ new, hEarlier.trans hLater⟩

theorem Precedes.le_count {s t : Session} {n : Nat} {key : String} (h : Precedes s t)
    (hMax : n ≤ Ledger.maxCount) (hCount : n ≤ s.ledger.count key) : n ≤ t.ledger.count key := by
  obtain ⟨new, hBooks⟩ := h
  rw [hBooks.ledger]
  exact Ledger.le_count_after hMax hCount new

/-- The calls of a run happen one after another, between its start and its end. -/
theorem Enacts.timeline {env : Environment} {α : Type} {x : Script α} {s : Session}
    {acts : List Act} (h : Enacts env x s acts) :
    (∀ a ∈ acts, Precedes s a.before ∧ Precedes a.after (x.perform env s).2) ∧
      acts.Pairwise fun later earlier => Precedes earlier.after later.before := by
  induction h with
  | ofExcept | ask | look | respond | editBag | editFrame | refused =>
    exact ⟨by simp, .nil⟩
  | goesOn hx hPerform hf ihx ihf =>
    obtain ⟨new, hFirst⟩ := hx.records
    obtain ⟨more, hSecond⟩ := hf.records
    obtain ⟨hEarlier, hEarlierOrder⟩ := ihx
    obtain ⟨hLater, hLaterOrder⟩ := ihf
    rw [hPerform] at hFirst hEarlier
    rw [perform_bind, hPerform]
    refine ⟨fun a ha => ?_, List.pairwise_append.mpr ⟨hLaterOrder, hEarlierOrder, ?_⟩⟩
    · rcases List.mem_append.mp ha with haLater | haEarlier
      · obtain ⟨hBefore, hAfter⟩ := hLater a haLater
        exact ⟨.trans ⟨new, hFirst.toBooks⟩ hBefore, hAfter⟩
      · obtain ⟨hBefore, hAfter⟩ := hEarlier a haEarlier
        exact ⟨hBefore, hAfter.trans ⟨more, hSecond.toBooks⟩⟩
    · intro later hl earlier he
      exact (hEarlier earlier he).2.trans (hLater later hl).1
  | stops _ hPerform ihx =>
    rw [hPerform] at ihx
    rw [perform_bind, hPerform]
    exact ihx
  | outcome _ ih =>
    rw [perform_outcome]
    exact ih
  | function engine hOwn arguments s =>
    refine ⟨fun a ha => ?_, List.pairwise_singleton _ _⟩
    rw [List.mem_singleton.mp ha]
    exact ⟨.refl _, .refl _⟩
  | @entered engine name target arguments s start t acts hStart _ ih =>
    obtain ⟨new, hBegin⟩ := bodyStart_records name target arguments env s hStart
    obtain ⟨more, hEnd⟩ := bodyEnd_records env ((engine t).perform env start).2
      ((engine t).perform env start).1
    rw [perform_nested_of_start name target arguments env s engine hStart]
    refine ⟨fun a ha => ?_, ih.2⟩
    obtain ⟨hBefore, hAfter⟩ := ih.1 a ha
    exact ⟨.trans ⟨new, hBegin.toBooks⟩ hBefore,
      hAfter.trans ⟨more, (hEnd.reframe s.frame _).toBooks⟩⟩
  | @run engine t s acts _ ih =>
    -- The run begins and ends in other frames, which are not booked.
    refine ⟨fun a ha => ?_, ih.2⟩
    obtain ⟨⟨new, hBefore⟩, more, hAfter⟩ := ih.1 a ha
    exact ⟨⟨new, hBefore.log, hBefore.ledger, hBefore.booked⟩,
      more, hAfter.log, hAfter.ledger, hAfter.booked⟩

end BotScript
