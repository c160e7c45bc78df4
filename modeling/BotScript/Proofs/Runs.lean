import BotScript.Proofs.Builtin.Powers
import BotScript.Proofs.Nested
import BotScript.Routine

/-! Runs of templates.  A composed script is put together from the functions, from nested templates
and from edits, in any order and to any depth, and goes on or stops after a fault as it likes.
`Visits` says at which sessions control can be while composed scripts run, and how many bodies of
nested templates it is inside of then.  Two invariants hold everywhere: no body starts inside
another, and no more bodies start than the limit allows. -/

namespace BotScript

open Relation Script

/-! ### Bodies in the log -/

/-- Whether the body of a nested template begins. -/
def Event.isBegan : Event → Bool
  | .began _ => true
  | _ => false

/-- Whether the body of a nested template begins or ends. -/
def Event.isMark : Event → Bool
  | .began _ | .ended _ => true
  | _ => false

/-- How many bodies have started in a log. -/
def bodiesBegun (log : List Event) : Nat := log.countP Event.isBegan

/-- How many of the bodies that have started in a log have not ended. -/
def openBodies : List Event → Nat
  | [] => 0
  | .began _ :: earlier => openBodies earlier + 1
  | .ended _ :: earlier => openBodies earlier - 1
  | _ :: earlier => openBodies earlier

theorem openBodies_cons_of_not_mark {e : Event} (h : e.isMark = false) (log : List Event) :
    openBodies (e :: log) = openBodies log := by
  cases e with
  | began _ | ended _ => simp [Event.isMark] at h
  | demanded _ _ | slept _ | called _ _ => rfl

/-- A log in which no body is open inside another, at any moment up to now. -/
def Separate (log : List Event) : Prop := ∀ moment, moment <:+ log → openBodies moment ≤ 1

theorem Separate.cons {e : Event} {log : List Event} (h : Separate log)
    (he : openBodies (e :: log) ≤ 1) : Separate (e :: log) := by
  intro moment hMoment
  rcases List.suffix_cons_iff.mp hMoment with rfl | hEarlier
  · exact he
  · exact h moment hEarlier

/-- Events that start and end no body change neither what is open nor what has started. -/
theorem unmarked_append {new : List Event} (hNew : ∀ e ∈ new, e.isMark = false) (log : List Event) :
    openBodies (new ++ log) = openBodies log ∧ bodiesBegun (new ++ log) = bodiesBegun log ∧
      (Separate log → Separate (new ++ log)) := by
  induction new with
  | nil => exact ⟨rfl, rfl, id⟩
  | cons e rest ih =>
    obtain ⟨hOpen, hBegun, hSeparate⟩ := ih fun e he => hNew e (List.mem_cons_of_mem _ he)
    have hMark : e.isMark = false := hNew e List.mem_cons_self
    have hCons := openBodies_cons_of_not_mark hMark (rest ++ log)
    have hBegan : e.isBegan = false := by
      cases e with
      | began _ => simp [Event.isMark] at hMark
      | ended _ | demanded _ _ | slept _ | called _ _ => rfl
    refine ⟨hCons.trans hOpen, ?_, fun hLog => ?_⟩
    · rw [List.cons_append, bodiesBegun, List.countP_cons, hBegan]
      exact hBegun
    · refine (hSeparate hLog).cons ?_
      rw [hCons]
      exact hSeparate hLog _ List.suffix_rfl

/-! ### The invariant -/

/-- A session is orderly if a body is open exactly while the frame is nested, none has been open
inside another, and, if counting does not stop at the limit, each body that has started has been
counted and the limit is kept. -/
structure Orderly (env : Environment) (s : Session) : Prop where
  isOpen : openBodies s.log = s.frame.isNested.toNat
  separate : Separate s.log
  counted : env.limits.nestedCalls < Ledger.maxCount →
    bodiesBegun s.log ≤ s.ledger.count nestedKey ∧ bodiesBegun s.log ≤ env.limits.nestedCalls

theorem orderly_start (env : Environment) : Orderly env env.start := by
  refine ⟨rfl, fun moment hMoment => ?_, fun _ => ⟨Nat.zero_le _, Nat.zero_le _⟩⟩
  rw [List.suffix_nil.mp hMoment]
  exact Nat.zero_le 1

section Counts

variable {n : Nat} {key : String}

/-- A count that is reached stays reached when a call is counted.  Above the most that is counted it
would not: there counting sets a count back. -/
theorem Ledger.le_count_charge (hMax : n ≤ maxCount) {l : Ledger} (h : n ≤ l.count key)
    (other : String) : n ≤ (l.charge other).count key := by
  by_cases hKey : key = other
  · rw [← hKey, count_charge_self]
    omega
  · rw [count_charge_of_ne l other hKey]
    exact h

theorem Ledger.le_count_judge (hMax : n ≤ maxCount) {l : Ledger} (h : n ≤ l.count key)
    (d : Demand) : n ≤ (l.judge d).2.count key := by
  cases d with
  | calls other ceiling => exact le_count_charge hMax h other
  | tieredCalls other free premium => exact le_count_charge hMax h other
  | apiCall => exact le_count_charge hMax h apiKey
  | sleep seconds =>
    rw [judge, count, counts_checkSleep]
    exact h

theorem Ledger.le_count_after (hMax : n ≤ maxCount) {l : Ledger} (h : n ≤ l.count key)
    (events : List Event) : n ≤ (l.after events).count key := by
  induction events with
  | nil => exact h
  | cons e rest ih =>
    cases e with
    | demanded d granted => exact le_count_judge hMax ih d
    | slept _ | called _ _ | began _ | ended _ => exact ih

end Counts

/-- A session after one in which no body started or ended: events were added that mark none, the
frame is as nested as before, and no call has been uncounted. -/
structure Steady (s after : Session) : Prop where
  log : ∃ new, after.log = new ++ s.log ∧ ∀ e ∈ new, e.isMark = false
  nested : after.frame.isNested = s.frame.isNested
  count : ∀ n ≤ Ledger.maxCount, n ≤ s.ledger.count nestedKey → n ≤ after.ledger.count nestedKey

theorem Steady.refl (s : Session) : Steady s s :=
  ⟨⟨[], rfl, by simp⟩, rfl, fun _ _ => id⟩

theorem Steady.trans {s1 s2 s3 : Session} (h1 : Steady s1 s2) (h2 : Steady s2 s3) :
    Steady s1 s3 := by
  obtain ⟨new1, hLog1, hNew1⟩ := h1.log
  obtain ⟨new2, hLog2, hNew2⟩ := h2.log
  refine ⟨⟨new2 ++ new1, ?_, fun e he => ?_⟩, h2.nested.trans h1.nested,
    fun n hMax hCount => h2.count n hMax (h1.count n hMax hCount)⟩
  · rw [hLog2, hLog1, List.append_assoc]
  · exact (List.mem_append.mp he).elim (hNew2 e) (hNew1 e)

/-- Calls of the platform are steady. -/
theorem steady_of_calls {s : Session} {calls : Call → Prop} {new : List Event}
    (hNew : ∀ e ∈ new, ∃ c succeeded, calls c ∧ e = .called c succeeded) :
    Steady s { s with log := new ++ s.log } := by
  refine ⟨⟨new, rfl, fun e he => ?_⟩, rfl, fun _ _ => id⟩
  obtain ⟨c, succeeded, -, rfl⟩ := hNew e he
  rfl

/-- Edits are steady if they leave the frame as nested as it is. -/
theorem steady_of_edit {s : Session} {frame : Frame} (hNested : frame.isNested = s.frame.isNested)
    (bag : TextDict) : Steady s { s with frame := frame, bag := bag } :=
  ⟨⟨[], rfl, by simp⟩, hNested, fun _ _ => id⟩

theorem Orderly.of_steady {env : Environment} {s after : Session} (h : Orderly env s)
    (hSteady : Steady s after) : Orderly env after := by
  obtain ⟨new, hLog, hNew⟩ := hSteady.log
  obtain ⟨hOpen, hBegun, hSeparate⟩ := unmarked_append hNew s.log
  refine ⟨?_, ?_, fun hMax => ?_⟩
  · rw [hLog, hOpen, hSteady.nested]
    exact h.isOpen
  · rw [hLog]
    exact hSeparate h.separate
  · obtain ⟨hCount, hLimit⟩ := h.counted hMax
    rw [hLog, hBegun]
    exact ⟨hSteady.count _ (by omega) hCount, hLimit⟩

theorem Steady.begun {s after : Session} (h : Steady s after) :
    bodiesBegun after.log = bodiesBegun s.log := by
  obtain ⟨new, hLog, hNew⟩ := h.log
  rw [hLog]
  exact (unmarked_append hNew s.log).2.1

/-- What a script with powers leaves is steady if it keeps frames as nested as they are. -/
theorem Powers.Leave.steady {p : Powers} {s after : Session} {α : Type} {r : Except Fault α}
    {new : List Event} (h : p.Leave s r after new)
    (hEdits : ∀ f g, p.edits f g → g.isNested = f.isNested) : Steady s after := by
  refine ⟨⟨new, h.log, fun e he => ?_⟩, ?_, fun n hMax hCount => ?_⟩
  · have hAllowed := h.allowed e he
    cases e with
    | began _ | ended _ => exact absurd hAllowed id
    | demanded _ _ | slept _ | called _ _ => rfl
  · have hFrame := h.frame
    generalize after.frame = f at hFrame ⊢
    induction hFrame with
    | refl => rfl
    | tail _ hEdit ih => exact (hEdits _ _ hEdit).trans ih
  · rw [h.ledger]
    exact Ledger.le_count_after hMax hCount new

/-- No function makes a frame nested, or makes it nested no longer. -/
theorem Builtin.isNested_of_edits {b : Builtin} {arguments : List Value} {f g : Frame}
    (h : (b.powers arguments).edits f g) : g.isNested = f.isNested := by
  cases b with
  | addResponseReactions =>
    obtain ⟨reactions, rfl⟩ := h
    rfl
  | deleteResponse =>
    obtain ⟨on, delay, rfl⟩ := h
    rfl
  | mentionEveryone | mentionHere =>
    cases h
    rfl
  | mentionRoleID =>
    obtain ⟨role, rfl⟩ := h
    rw [Frame.mentionRole]
    split <;> rfl
  | _ => exact absurd h id

/-! ### Composed scripts -/

/-- A script that is put together from what templates can do, and from what they can see.  Faults
end it or are caught, and an edit of the frame leaves it as nested as it is. -/
inductive Composed : {α : Type} → Script α → Prop
  | pure {α : Type} (a : α) : Composed (pure a)
  | throw {α : Type} (fault : Fault) : Composed (throw fault : Script α)
  | bind {α β : Type} {x : Script α} {f : α → Script β} (hx : Composed x)
      (hf : ∀ a, Composed (f a)) : Composed (x >>= f)
  | outcome {α : Type} {x : Script α} (hx : Composed x) : Composed (outcome x)
  | ask {α : Type} (f : Environment → α) : Composed (ask f)
  | look {α : Type} (f : Session → α) : Composed (look f)
  | builtin {engine : Engine} (hEngine : ∀ t, Composed (engine t)) (b : Builtin)
      (arguments : List Value) : Composed (b.run engine arguments)
  | nested {engine : Engine} (hEngine : ∀ t, Composed (engine t)) (name : String)
      (target : Target) (arguments : List Value) : Composed (nested engine name target arguments)
  | run {engine : Engine} {t : Template} (h : Composed (engine t)) : Composed (run engine t)
  | respond (output : String) : Composed (respond output)
  | editBag (f : TextDict → TextDict) : Composed (editBag f)
  | editFrame {f : Frame → Frame} (h : ∀ frame, (f frame).isNested = frame.isNested) :
      Composed (editFrame f)

/-- What a composed script preserves: order, and whether the frame is nested. -/
def Preserves (env : Environment) (s after : Session) : Prop :=
  Orderly env s → Orderly env after ∧ after.frame.isNested = s.frame.isNested

theorem Steady.preserves {env : Environment} {s after : Session} (h : Steady s after) :
    Preserves env s after := fun hOrderly => ⟨hOrderly.of_steady h, h.nested⟩

theorem Preserves.trans {env : Environment} {s1 s2 s3 : Session} (h1 : Preserves env s1 s2)
    (h2 : Preserves env s2 s3) : Preserves env s1 s3 := by
  intro hOrderly
  obtain ⟨hOrderly2, hNested2⟩ := h1 hOrderly
  obtain ⟨hOrderly3, hNested3⟩ := h2 hOrderly2
  exact ⟨hOrderly3, hNested3.trans hNested2⟩

section Steps

variable (name : String) (target : Target) (arguments : List Value) (env : Environment)
  (s : Session)

theorem counted_steady : Steady s (counted env s) := by
  refine ⟨⟨[_], rfl, fun e he => ?_⟩, rfl, fun n hMax hCount => ?_⟩
  · rw [List.mem_singleton.mp he]
    rfl
  · exact Ledger.le_count_charge hMax hCount nestedKey

/-- Preparing a nested call starts no body. -/
theorem prepare_steady : Steady s ((prepare name target).perform env s).2 := by
  obtain ⟨new, hLeaves, hNew⟩ := prepare_leaves name target env s
  rw [hLeaves]
  exact (counted_steady env s).trans (steady_of_calls hNew)

theorem prepared_isNested {t : Template} {frame : Frame} (h : Prepared name env s t frame) :
    frame.isNested = true := by
  obtain ⟨channel, direct, rfl⟩ := h.frame
  rfl

/-- A body starts in an orderly session: it is counted, it is the only one that is open, and its
frame is nested. -/
theorem orderly_bodyStart {t : Template} {start : Session} (h : Orderly env s)
    (hStart : bodyStart? name target arguments env s = some (t, start)) :
    Orderly env start ∧ start.frame.isNested = true ∧ s.frame.isNested = false := by
  obtain ⟨frame, ready, value, hPrepare, -, rfl⟩ :=
    bodyStart?_eq_some name target arguments env s hStart
  have hPrepared := prepared_of_perform name target env s hPrepare
  have hNested := prepared_isNested name env s hPrepared
  have hSteady := prepare_steady name target env s
  have hLedger := prepare_ledger name target env s
  rw [hPrepare] at hSteady hLedger
  simp only at hSteady hLedger
  have hReady := h.of_steady hSteady
  have hOpen : openBodies ready.log = 0 := by
    rw [hReady.isOpen, hSteady.nested, hPrepared.outer]
    rfl
  refine ⟨⟨?_, ?_, fun hMax => ?_⟩, hNested, hPrepared.outer⟩
  · show openBodies ready.log + 1 = frame.isNested.toNat
    rw [hOpen, hNested]
    rfl
  · refine hReady.separate.cons ?_
    show openBodies ready.log + 1 ≤ 1
    omega
  · obtain ⟨hCount, hLimit⟩ := h.counted hMax
    have hGranted := hPrepared.granted
    have hBegun : bodiesBegun (.began frame :: ready.log) = bodiesBegun s.log + 1 := by
      rw [← hSteady.begun]
      exact List.countP_cons_of_pos rfl
    simp only [hBegun, hLedger, Ledger.count_charge_self]
    rw [nestedCount, Ledger.count_charge_self] at hGranted
    omega

/-- The end of a body is orderly for a caller that is not nested. -/
theorem orderly_bodyEnd {done : Session} (h : Orderly env done)
    (hNested : done.frame.isNested = true) (hOuter : s.frame.isNested = false)
    {calls : Call → Prop} {new : List Event}
    (hNew : ∀ e ∈ new, ∃ c succeeded, calls c ∧ e = .called c succeeded) (bag : TextDict) :
    Orderly env { done with
      frame := s.frame
      bag := bag
      log := new ++ .ended done.frame :: done.log } := by
  have hOpen : openBodies (.ended done.frame :: done.log) = 0 := by
    show openBodies done.log - 1 = 0
    rw [h.isOpen, hNested]
    rfl
  have hEnd : Orderly env { done with
      frame := s.frame, bag := bag, log := .ended done.frame :: done.log } := by
    refine ⟨?_, h.separate.cons ?_, fun hMax => ?_⟩
    · simp only [hOpen, hOuter, Bool.toNat_false]
    · rw [hOpen]
      exact Nat.zero_le 1
    · have hBegun : bodiesBegun (.ended done.frame :: done.log) = bodiesBegun done.log :=
        List.countP_cons_of_neg (by simp [Event.isBegan])
      rw [hBegun]
      exact h.counted hMax
  exact hEnd.of_steady (steady_of_calls hNew)

theorem nested_preserves {engine : Engine}
    (hEngine : ∀ t start, Preserves env start ((engine t).perform env start).2) :
    Preserves env s ((nested engine name target arguments).perform env s).2 := by
  rcases hStart : bodyStart? name target arguments env s with _ | ⟨t, start⟩
  · obtain ⟨fault, bag, hPerform, -⟩ := perform_nested_of_none name target arguments env s hStart
    have hSteady := prepare_steady name target env s
    rw [hPerform engine]
    exact Steady.preserves ⟨hSteady.log, rfl, hSteady.count⟩
  · intro hOrderly
    obtain ⟨hBody, hNested, hOuter⟩ :=
      orderly_bodyStart name target arguments env s hOrderly hStart
    obtain ⟨hDone, hSame⟩ := hEngine t start hBody
    obtain ⟨new, hLast, hNew⟩ := deliver_leaves env
      (((engine t).perform env start).2.noting (.ended ((engine t).perform env start).2.frame))
      ((engine t).perform env start).1
    rw [perform_nested_of_start name target arguments env s engine hStart]
    simp only [hLast]
    exact ⟨orderly_bodyEnd env s hDone (hSame.trans hNested) hOuter hNew _, trivial⟩

theorem builtin_preserves {engine : Engine} (b : Builtin)
    (hEngine : ∀ t start, Preserves env start ((engine t).perform env start).2) :
    Preserves env s ((b.run engine arguments).perform env s).2 := by
  by_cases hTemplate : b = .sendTemplate
  · subst hTemplate
    exact perform_bind_trans Preserves.trans (Steady.refl s).preserves fun _ after =>
      nested_preserves _ _ _ env after hEngine
  by_cases hTemplateDM : b = .sendTemplateDM
  · subst hTemplateDM
    exact perform_bind_trans Preserves.trans (Steady.refl s).preserves fun _ after =>
      nested_preserves _ _ _ env after hEngine
  obtain ⟨new, hLeave⟩ := (b.run_confined engine hTemplate hTemplateDM arguments).leaves env s
  exact (hLeave.steady fun f g => b.isNested_of_edits).preserves

end Steps

/-- Composed scripts preserve order. -/
theorem Composed.preserves {α : Type} {x : Script α} (hx : Composed x) (env : Environment)
    (s : Session) : Preserves env s (x.perform env s).2 := by
  induction hx generalizing s with
  | pure a | throw fault | ask f | look f => exact (Steady.refl s).preserves
  | bind _ _ ihx ihf => exact perform_bind_trans Preserves.trans (ihx s) ihf
  | outcome _ ih =>
    rw [perform_outcome]
    exact ih s
  | builtin _ b arguments ih =>
    exact builtin_preserves arguments env s b fun t start => ih t start
  | nested _ name target arguments ih =>
    -- The hypothesis is about every template of the engine, so that it covers the body.
    exact nested_preserves name target arguments env s fun t start => ih t start
  | @run engine t _ ih =>
    have hEdit : Steady s { s with frame := { s.frame with template := some t } } := by
      refine steady_of_edit ?_ s.bag
      rfl
    exact hEdit.preserves.trans (ih _)
  | respond output =>
    obtain ⟨new, hLast, hNew⟩ := (respond_confined output).asks env s
    rw [hLast]
    exact (steady_of_calls hNew).preserves
  | editBag f => exact (steady_of_edit rfl (f s.bag)).preserves
  | editFrame h => exact (steady_of_edit (h s.frame) s.bag).preserves

/-! ### Routines -/

theorem FrameEdit.isNested_apply (f : Frame) (change : FrameEdit) :
    (change.apply f).isNested = f.isNested := by
  cases change <;> rfl

theorem composed_orMissing {α : Type} (what : Missing) (a : Option α) :
    Composed (orMissing what a) := by
  cases a with
  | none => exact .throw _
  | some a => exact .pure a

theorem composed_call {engine : Engine} (hEngine : ∀ t, Composed (engine t)) (name : String)
    (arguments : List Value) : Composed (Builtin.call engine name arguments) := by
  rw [Builtin.call]
  split
  · exact .builtin hEngine _ arguments
  · exact .throw _

theorem Step.composed_handle (name : String) : Composed (handle name) :=
  .bind (.ask _) fun _ => composed_orMissing _ _

/-- What a step does is composed if the templates that it runs are. -/
theorem Step.composed {engine : Engine} (hEngine : ∀ t, Composed (engine t)) (step : Step) :
    Composed (step.perform engine) := by
  induction step with
  | call function arguments => exact .bind (.look _) fun _ => composed_call hEngine _ _
  | assign key function arguments =>
    exact .bind (.look _) fun _ => .bind (composed_call hEngine _ _) fun _ =>
      .bind (.editBag _) fun _ => .pure _
  | set key value | unset key => exact .bind (.editBag _) fun _ => .pure _
  | get key => exact .bind (.look _) fun _ => .pure _
  | text s => exact .pure _
  | fail s => exact .throw _
  | attempt step ih =>
    refine .bind (.outcome ih) fun result => ?_
    split
    · exact .pure _
    · exact .throw _
    · exact .pure _
  | edit change =>
    exact .bind (.editFrame fun f => change.isNested_apply f) fun _ => .pure _
  | nested name target arguments =>
    exact .bind (.look _) fun _ => .nested hEngine name _ _
  | run name =>
    exact .bind (composed_handle name) fun t => .bind (.run (hEngine t)) fun _ => .pure _
  | respond output => exact .bind (.respond output) fun _ => .pure _
  | host name =>
    exact .bind (composed_handle name) fun t => .bind (.run (hEngine t)) fun _ =>
      .bind (.respond _) fun _ => .pure _

theorem Routine.composed_render {engine : Engine} (hEngine : ∀ t, Composed (engine t))
    (steps : Routine) : Composed (render engine steps) := by
  have hSteps : Composed (steps.mapM fun step => do return (← step.perform engine).print) := by
    induction steps with
    | nil => exact .pure []
    | cons step rest ih =>
      rw [List.mapM_cons]
      exact .bind (.bind (step.composed hEngine) fun _ => .pure _) fun _ =>
        .bind ih fun _ => .pure _
  exact .bind hSteps fun _ => .pure _

/-- Routines are composed, to any depth to which they run each other. -/
theorem Routine.composed_engine (routines : String → Option Routine) (depth : Nat) (t : Template) :
    Composed (engine routines depth t) := by
  induction depth generalizing t with
  | zero => exact .throw _
  | succ depth ih => exact composed_render ih _

/-! ### Where control can be -/

/-- The sessions at which control can be during a run that starts afresh, and inside of how many
bodies of nested templates it is then.  Between two such sessions any composed script may run, in
the body or outside, and where a nested call gets as far as its body control enters it. -/
inductive Visits (env : Environment) : Nat → Session → Prop
  | start : Visits env 0 env.start
  | act {depth : Nat} {s : Session} {α : Type} {x : Script α} (h : Visits env depth s)
      (hx : Composed x) : Visits env depth (x.perform env s).2
  | enter {depth : Nat} {s start : Session} {name : String} {target : Target}
      {arguments : List Value} {t : Template} (h : Visits env depth s)
      (hStart : bodyStart? name target arguments env s = some (t, start)) :
      Visits env (depth + 1) start

/-- Every session of a run is orderly, and its frame is nested exactly inside of a body. -/
theorem Visits.orderly {env : Environment} {depth : Nat} {s : Session} (h : Visits env depth s) :
    Orderly env s ∧ s.frame.isNested.toNat = depth := by
  induction h with
  | start => exact ⟨orderly_start env, rfl⟩
  | @act depth s _ x _ hx ih =>
    obtain ⟨hOrderly, hDepth⟩ := ih
    obtain ⟨hAfter, hNested⟩ := hx.preserves env s hOrderly
    exact ⟨hAfter, by rw [hNested, hDepth]⟩
  | @enter depth s start name target arguments t _ hStart ih =>
    obtain ⟨hOrderly, hDepth⟩ := ih
    obtain ⟨hBody, hNested, hOuter⟩ :=
      orderly_bodyStart name target arguments env s hOrderly hStart
    rw [hOuter] at hDepth
    exact ⟨hBody, by rw [hNested, ← hDepth]; rfl⟩

/-- A nested call in a nested frame fails before it looks anything up.  It is counted, and nothing
else happens. -/
theorem perform_nested_of_isNested (engine : Engine) (name : String) (target : Target)
    (arguments : List Value) (env : Environment) {s : Session} (h : s.frame.isNested = true) :
    (nested engine name target arguments).perform env s =
      (.error (if env.limits.nestedCalls < nestedCount s then .exhausted .calls
        else if name.isEmpty then .invalid .noTemplateName else .nested), counted env s) := by
  rw [nested, perform_bind, perform_prepare, refusal?, if_pos h]
  by_cases hCount : env.limits.nestedCalls < nestedCount s
  · rw [if_pos hCount, if_pos hCount]
  by_cases hName : name.isEmpty = true
  · rw [if_neg hCount, if_neg hCount, if_pos hName, if_pos hName]
  · rw [if_neg hCount, if_neg hCount, if_neg hName, if_neg hName]

/-- At every session of a run control is inside of one body at most, and has been so at every moment
before.  No more bodies have started than the limit allows, unless counting stops at the limit.
Outside of bodies the frame is not nested, and inside of one every nested call fails, whatever the
host knows or answers, for the first of three reasons. -/
theorem Visits.nesting {env : Environment} {depth : Nat} {s : Session} (h : Visits env depth s) :
    depth ≤ 1 ∧ openBodies s.log = depth ∧
    (∀ moment, moment <:+ s.log → openBodies moment ≤ 1) ∧
    (env.limits.nestedCalls < Ledger.maxCount → bodiesBegun s.log ≤ env.limits.nestedCalls) ∧
    (depth = 0 → s.frame.isNested = false) ∧
    (0 < depth → ∀ (host : Host) (engine : Engine) (name : String) (target : Target)
      (arguments : List Value),
      (nested engine name target arguments).perform { env with host := host } s =
        (.error (if env.limits.nestedCalls < nestedCount s then .exhausted .calls
          else if name.isEmpty then .invalid .noTemplateName else .nested), counted env s)) := by
  obtain ⟨hOrderly, hDepth⟩ := h.orderly
  refine ⟨?_, hOrderly.isOpen.trans hDepth, hOrderly.separate,
    fun hMax => (hOrderly.counted hMax).2, fun hZero => ?_,
    fun hInside host engine name target arguments => ?_⟩
  · rw [← hDepth]
    exact Bool.toNat_le _
  · rw [hZero] at hDepth
    exact Bool.toNat_eq_zero.mp hDepth
  · have hNested : s.frame.isNested = true := by
      have hLe := Bool.toNat_le s.frame.isNested
      exact Bool.toNat_eq_one.mp (by omega)
    exact perform_nested_of_isNested engine name target arguments { env with host := host } hNested

/-- A nested call from the body of the first nested call of an execution. -/
theorem nesting_in_first_child : ∃ start, Visits sampleEnvironment 1 start ∧
    openBodies start.log = 1 ∧ bodiesBegun start.log ≤ 3 ∧
    ∀ engine target arguments,
      (nested engine "child" target arguments).perform sampleEnvironment start =
        (.error .nested, counted sampleEnvironment start) := by
  have hVisits : ∃ start, Visits sampleEnvironment 1 start ∧
      nestedCount start ≤ sampleEnvironment.limits.nestedCalls :=
    ⟨_, @Visits.enter _ 0 _ _ "child" (.channel none) [] _ .start rfl, by decide⟩
  obtain ⟨start, hVisit, hCount⟩ := hVisits
  obtain ⟨-, hOpen, -, hBegun, -, hInside⟩ := hVisit.nesting
  refine ⟨start, hVisit, hOpen, hBegun (by decide), fun engine target arguments => ?_⟩
  have hFails := hInside Nat.one_pos sampleEnvironment.host engine "child" target arguments
  rw [if_neg (Nat.not_lt.mpr hCount)] at hFails
  exact hFails

end BotScript
