import BotScript.Execution
import Mathlib.Logic.Relation

/-! What a script may do: which demands and calls it may make, which patterns it may compile, and
how it may change the frame.  `Confined p x` says that `x` is put together from steps that the
powers `p` allow, and `Confined.leaves` what follows for the session after it, whatever the
platform answers: nothing has happened but what `p` allows, the data bag is as it was, and the
ledger is the one that the demands in the log lead to. -/

namespace BotScript

open Relation

/-- What a script may do besides looking. -/
structure Powers where
  demands : Demand → Prop
  calls : Call → Prop
  patterns : String → Prop
  edits : Frame → Frame → Prop

/-- A script with these powers only looks. -/
def Powers.none : Powers := ⟨fun _ => False, fun _ => False, fun _ => False, fun _ _ => False⟩

/-- A script with these powers looks, and asks the platform. -/
def Powers.asking (calls : Call → Prop) : Powers := { Powers.none with calls := calls }

/-- The events that powers allow. -/
def Powers.Allow (p : Powers) : Event → Prop
  | .demanded d _ => p.demands d
  | .slept n => ∃ seconds, p.demands (.sleep seconds) ∧ n = seconds.toInt.toNat
  | .called c _ => p.calls c
  | .began _ | .ended _ => False

/-- The ledger after events, the latest first. -/
def Ledger.after (l : Ledger) (events : List Event) : Ledger :=
  events.foldr
    (fun e l => match e with
      | .demanded d _ => (l.judge d).2
      | _ => l)
    l

@[simp] theorem Ledger.after_append (l : Ledger) (later earlier : List Event) :
    l.after (later ++ earlier) = (l.after earlier).after later := List.foldr_append

@[simp] theorem Ledger.after_demanded (l : Ledger) (d : Demand) (granted : Bool) :
    l.after [.demanded d granted] = (l.judge d).2 := rfl

/-- Without demands a ledger stays as it is. -/
theorem Ledger.after_of_no_demand {events : List Event}
    (h : ∀ e ∈ events, ∀ d granted, e ≠ .demanded d granted) (l : Ledger) : l.after events = l := by
  induction events with
  | nil => rfl
  | cons e rest ih =>
    have hRest : l.after rest = l := ih fun e he => h e (List.mem_cons_of_mem _ he)
    cases e with
    | demanded d granted => exact absurd rfl (h _ List.mem_cons_self d granted)
    | slept _ | called _ _ | began _ | ended _ => exact hRest

/-- A cache and the one after a request that powers allow. -/
def Powers.Compiles (p : Powers) (before after : PatternCache) : Prop :=
  ∃ source pattern, p.patterns source ∧ before.request source = .ok (pattern, after)

/-- What a script with powers `p` leaves when it starts in `s` and its outcome is `r`: a session
`after` in which the events `new`, the latest first, have happened, and nothing else. -/
structure Powers.Leave (p : Powers) (s : Session) {α : Type} (r : Except Fault α)
    (after : Session) (new : List Event) : Prop where
  log : after.log = new ++ s.log
  bag : after.bag = s.bag
  ledger : after.ledger = s.ledger.after new
  frame : ReflTransGen p.edits s.frame after.frame
  patterns : ReflTransGen p.Compiles s.patterns after.patterns
  allowed : ∀ e ∈ new, p.Allow e
  /-- A budget is exhausted only where a demand, a call or a pattern was refused. -/
  cause : ∀ budget, r = .error (.exhausted budget) →
    (∃ d, .demanded d false ∈ new) ∨ (∃ c, .called c false ∈ new) ∨ ∃ source, p.patterns source

namespace Powers.Leave

variable {p : Powers} {s s1 s2 : Session} {α β : Type} {r1 : Except Fault α} {r2 : Except Fault β}
  {new1 new2 : List Event}

theorem refl (p : Powers) (s : Session) {r : Except Fault α}
    (hr : ∀ fault, r = .error fault → fault.isExhausted = false) : p.Leave s r s [] where
  log := rfl
  bag := rfl
  ledger := rfl
  frame := .refl
  patterns := .refl
  allowed := by simp
  cause budget h := absurd (hr _ h) (by simp [Fault.isExhausted])

theorem trans (h1 : p.Leave s r1 s1 new1) (h2 : p.Leave s1 r2 s2 new2) :
    p.Leave s r2 s2 (new2 ++ new1) where
  log := by rw [h2.log, h1.log, List.append_assoc]
  bag := h2.bag.trans h1.bag
  ledger := by rw [h2.ledger, h1.ledger, Ledger.after_append]
  frame := h1.frame.trans h2.frame
  patterns := h1.patterns.trans h2.patterns
  allowed e he := (List.mem_append.mp he).elim (h2.allowed e) (h1.allowed e)
  cause budget h := by
    rcases h2.cause budget h with ⟨d, hd⟩ | ⟨c, hc⟩ | hp
    · exact .inl ⟨d, List.mem_append_left _ hd⟩
    · exact .inr (.inl ⟨c, List.mem_append_left _ hc⟩)
    · exact .inr (.inr hp)

/-- A fault stays the same fault when the script that it ends was to give something else. -/
theorem error {fault : Fault} (h : p.Leave s (.error fault : Except Fault α) s1 new1) :
    p.Leave s (.error fault : Except Fault β) s1 new1 :=
  { h with cause := fun budget hb => h.cause budget (by cases hb; rfl) }

/-- Without powers to change the frame it stays as it is. -/
theorem frame_eq (h : p.Leave s r1 s1 new1) (hEdits : ∀ f g, ¬p.edits f g) :
    s1.frame = s.frame := by
  rcases h.frame.cases_head with heq | ⟨_, hedit, _⟩
  · exact heq.symm
  · exact absurd hedit (hEdits _ _)

/-- Without powers to compile patterns those that were compiled stay the same. -/
theorem patterns_eq (h : p.Leave s r1 s1 new1) (hPatterns : ∀ source, ¬p.patterns source) :
    s1.patterns = s.patterns := by
  rcases h.patterns.cases_head with heq | ⟨_, ⟨source, _, hp, _⟩, _⟩
  · exact heq.symm
  · exact absurd hp (hPatterns source)

/-- What only asks the platform leaves a longer log, and all else as it is. -/
theorem eq_of_asking {calls : Call → Prop} (h : (Powers.asking calls).Leave s r1 s1 new1) :
    s1 = { s with log := new1 ++ s.log } := by
  have hLedger : s1.ledger = s.ledger := by
    rw [h.ledger]
    refine Ledger.after_of_no_demand (fun e he d granted heq => ?_) _
    rw [heq] at he
    exact h.allowed _ he
  have hFrame : s1.frame = s.frame := h.frame_eq fun _ _ => id
  have hPatterns : s1.patterns = s.patterns := h.patterns_eq fun _ => id
  rw [← h.log, ← hLedger, ← hFrame, ← hPatterns, ← h.bag]

end Powers.Leave

namespace Script

variable {α β : Type}

/-- A script that is put together from steps within its powers.  No fault of its own is an exhausted
budget. -/
inductive Confined (p : Powers) : {α : Type} → Script α → Prop
  | ofExcept {α : Type} {r : Except Fault α}
      (h : ∀ fault, r = .error fault → fault.isExhausted = false) : Confined p (ofExcept r)
  | bind {α β : Type} {x : Script α} {f : α → Script β} (hx : Confined p x)
      (hf : ∀ a, Confined p (f a)) : Confined p (x >>= f)
  | ask {α : Type} (f : Environment → α) : Confined p (ask f)
  | look {α : Type} (f : Session → α) : Confined p (look f)
  | now : Confined p now
  | draw (bound : Nat) : Confined p (draw bound)
  | demand {d : Demand} (h : p.demands d) : Confined p (demand d)
  | sleep {seconds : Int64} (h : p.demands (.sleep seconds)) : Confined p (sleep seconds)
  | call {c : Call} (h : p.calls c) : Confined p (call c)
  | compile {source : String} (h : p.patterns source) : Confined p (compile source)
  | editFrame {f : Frame → Frame} (h : ∀ frame, p.edits frame (f frame)) : Confined p (editFrame f)

/-! ### What a demand gives -/

/-- The session after a demand was judged. -/
def charged (s : Session) (d : Demand) : Session :=
  { s with
    ledger := (s.ledger.judge d).2
    log := .demanded d (s.ledger.judge d).1.isGranted :: s.log }

theorem charged_log {s : Session} {d : Demand} {granted : Bool}
    (h : (s.ledger.judge d).1.isGranted = granted) :
    (charged s d).log = .demanded d granted :: s.log := by
  rw [← h]
  rfl

theorem perform_demand_eq (d : Demand) (env : Environment) (s : Session) :
    (demand d).perform env s =
      ((s.ledger.judge d).1.toExcept (s.ledger.refusal d), charged s d) := by
  unfold charged
  rw [perform_demand, Ledger.ensure_eq, Verdict.toBool_toExcept]

/-- What follows a demand runs if it is granted. -/
theorem perform_demand_bind_of_granted {d : Demand} {s : Session}
    (h : (s.ledger.judge d).1.isGranted = true) (f : Unit → Script α) (env : Environment) :
    (demand d >>= f).perform env s = (f ()).perform env (charged s d) := by
  rw [perform_bind, perform_demand_eq, Verdict.isGranted_iff.mp h]
  rfl

/-- Nothing follows a demand that is not granted. -/
theorem perform_demand_bind_of_not_granted {d : Demand} {s : Session}
    (h : (s.ledger.judge d).1.isGranted = false) (f : Unit → Script α) (env : Environment) :
    ∃ fault, (demand d >>= f).perform env s = (.error fault, charged s d) := by
  rw [perform_bind, perform_demand_eq]
  rcases hJudged : (s.ledger.judge d).1 with _ | _ | _
  · rw [hJudged] at h
    exact nomatch h
  · exact ⟨_, rfl⟩
  · exact ⟨_, rfl⟩

/-! ### What confined scripts leave -/

section Leaves

variable {p : Powers} (env : Environment) (s : Session)

theorem demand_leaves {d : Demand} (h : p.demands d) :
    p.Leave s ((demand d).perform env s).1 ((demand d).perform env s).2
      [.demanded d (s.ledger.ensure d).1.toBool] := by
  rw [perform_demand]
  refine ⟨rfl, rfl, ?_, .refl, .refl, by simpa [Powers.Allow] using h,
    fun budget hb => .inl ⟨d, ?_⟩⟩
  · rw [Ledger.after_demanded, Ledger.ensure_eq]
  · simp only at hb
    simp [hb, Except.toBool]

/-- A script leaves what both of its parts leave, or what the first leaves if that fails. -/
theorem bind_leaves {x : Script α} {f : α → Script β}
    (hx : ∃ new, p.Leave s (x.perform env s).1 (x.perform env s).2 new)
    (hf : ∀ a after, ∃ new, p.Leave after ((f a).perform env after).1
      ((f a).perform env after).2 new) :
    ∃ new, p.Leave s ((x >>= f).perform env s).1 ((x >>= f).perform env s).2 new := by
  obtain ⟨new1, h1⟩ := hx
  rw [perform_bind]
  rcases hPerform : x.perform env s with ⟨fault | a, after⟩
  · rw [hPerform] at h1
    exact ⟨new1, h1.error⟩
  · rw [hPerform] at h1
    obtain ⟨new2, h2⟩ := hf a after
    exact ⟨new2 ++ new1, h1.trans h2⟩

theorem sleep_leaves {seconds : Int64} (h : p.demands (.sleep seconds)) :
    ∃ new, p.Leave s ((sleep seconds).perform env s).1 ((sleep seconds).perform env s).2 new := by
  refine bind_leaves env s ⟨_, demand_leaves env s h⟩ fun _ after =>
    ⟨[.slept seconds.toInt.toNat], rfl, rfl, rfl, .refl, .refl, ?_, fun _ hb => nomatch hb⟩
  simpa [Powers.Allow] using ⟨seconds, h, rfl⟩

theorem call_leaves {c : Call} (h : p.calls c) :
    p.Leave s ((call c).perform env s).1 ((call c).perform env s).2
      [.called c (env.host.answer s.log c).toBool] := by
  rw [perform_call]
  refine ⟨rfl, rfl, rfl, .refl, .refl, by simpa [Powers.Allow] using h,
    fun budget hb => .inr (.inl ⟨c, ?_⟩)⟩
  simp only at hb
  simp [hb, Except.toBool]

theorem compile_leaves {source : String} (h : p.patterns source) :
    p.Leave s ((compile source).perform env s).1 ((compile source).perform env s).2 [] := by
  rw [perform_compile]
  rcases hRequest : s.patterns.request source with fault | ⟨pattern, patterns⟩
  · exact ⟨rfl, rfl, rfl, .refl, .refl, by simp, fun _ _ => .inr (.inr ⟨source, h⟩)⟩
  · exact ⟨rfl, rfl, rfl, .refl, .single ⟨source, pattern, h, hRequest⟩, by simp,
      fun _ hb => nomatch hb⟩

theorem editFrame_leaves {f : Frame → Frame} (h : ∀ frame, p.edits frame (f frame)) :
    p.Leave s ((editFrame f).perform env s).1 ((editFrame f).perform env s).2 [] :=
  ⟨rfl, rfl, rfl, .single (h s.frame), .refl, by simp, fun _ hb => nomatch hb⟩

/-- A script that is confined to powers leaves what they allow. -/
theorem Confined.leaves {x : Script α} (h : Confined p x) :
    ∃ new, p.Leave s (x.perform env s).1 (x.perform env s).2 new := by
  induction h generalizing s with
  | ofExcept hr => exact ⟨[], .refl p s hr⟩
  | bind _ _ ihx ihf => exact bind_leaves env s (ihx s) ihf
  | ask f => exact ⟨[], .refl p s (by simp [perform_ask])⟩
  | look f => exact ⟨[], .refl p s (by simp [perform_look])⟩
  | now => exact ⟨[], .refl p s (by simp [perform_now])⟩
  | draw bound => exact ⟨[], .refl p s fun _ hr => nomatch hr⟩
  | demand hd => exact ⟨_, demand_leaves env s hd⟩
  | sleep hd => exact sleep_leaves env s hd
  | call hc => exact ⟨_, call_leaves env s hc⟩
  | compile hp => exact ⟨_, compile_leaves env s hp⟩
  | editFrame hf => exact ⟨_, editFrame_leaves env s hf⟩

/-- A script that only asks the platform leaves a log with what it asked, and all else as it is. -/
theorem Confined.asks {calls : Call → Prop} {x : Script α} (h : Confined (.asking calls) x) :
    ∃ new, (x.perform env s).2 = { s with log := new ++ s.log } ∧
      ∀ e ∈ new, ∃ c succeeded, calls c ∧ e = .called c succeeded := by
  obtain ⟨new, hLeave⟩ := h.leaves env s
  refine ⟨new, hLeave.eq_of_asking, fun e he => ?_⟩
  have hAllowed := hLeave.allowed e he
  cases e with
  | called c succeeded => exact ⟨c, succeeded, hAllowed, rfl⟩
  | slept n =>
    obtain ⟨_, hDemand, _⟩ := hAllowed
    exact absurd hDemand id
  | demanded _ _ | began _ | ended _ => exact absurd hAllowed id

end Leaves

/-! ### Scripts that are confined -/

namespace Confined

variable {p q : Powers}

theorem pure (a : α) : Confined p (Pure.pure a : Script α) :=
  .ofExcept (r := .ok a) fun _ h => nomatch h

theorem throw {fault : Fault} (h : fault.isExhausted = false) :
    Confined p (MonadExcept.throw fault : Script α) :=
  .ofExcept (r := .error fault) fun _ h' => by cases h'; exact h

/-- More powers do no harm. -/
theorem mono {x : Script α} (h : Confined p x) (hDemands : ∀ d, p.demands d → q.demands d)
    (hCalls : ∀ c, p.calls c → q.calls c)
    (hPatterns : ∀ source, p.patterns source → q.patterns source)
    (hEdits : ∀ f g, p.edits f g → q.edits f g) : Confined q x := by
  induction h with
  | ofExcept hr => exact .ofExcept hr
  | bind _ _ ihx ihf => exact .bind ihx ihf
  | ask f => exact .ask f
  | look f => exact .look f
  | now => exact .now
  | draw bound => exact .draw bound
  | demand h => exact .demand (hDemands _ h)
  | sleep h => exact .sleep (hDemands _ h)
  | call h => exact .call (hCalls _ h)
  | compile h => exact .compile (hPatterns _ h)
  | editFrame h => exact .editFrame fun frame => hEdits _ _ (h frame)

theorem orMistake (r : Except Mistake α) : Confined p (orMistake r) := by
  refine .ofExcept fun fault h => ?_
  cases r with
  | ok a => exact nomatch h
  | error mistake => cases h; rfl

/-- What follows a result that may be a mistake has to be confined for the results that it gives. -/
theorem bind_orMistake {β : Type} {r : Except Mistake α} {f : α → Script β}
    (hf : ∀ a, r = .ok a → Confined p (f a)) : Confined p (Script.orMistake r >>= f) := by
  cases r with
  | error mistake =>
    show Confined p (MonadExcept.throw (Fault.invalid mistake) : Script β)
    exact .throw rfl
  | ok a => exact hf a rfl

theorem orMissing (what : Missing) (a : Option α) : Confined p (orMissing what a) := by
  cases a with
  | none => exact .throw rfl
  | some a => exact .pure a

theorem forM {β : Type} {f : β → Script PUnit} (h : ∀ b, Confined p (f b)) (bs : List β) :
    Confined p (bs.forM f) := by
  induction bs with
  | nil => exact .pure _
  | cons b bs ih => exact .bind (h b) fun _ => ih

end Confined

/-! ### Scripts that charge first -/

/-- A script that asks nothing of the platform before a demand was granted, unless `charged` says
that one was granted before it. -/
inductive Charging (demands : Demand → Prop) (calls : Call → Prop) :
    (charged : Bool) → {α : Type} → Script α → Prop
  | asking {α : Type} {x : Script α} (hx : Confined (.asking calls) x) :
      Charging demands calls true x
  | looking {charged : Bool} {α β : Type} {x : Script α} {f : α → Script β}
      (hx : Confined .none x) (hf : ∀ a, Charging demands calls charged (f a)) :
      Charging demands calls charged (x >>= f)
  | demand {charged : Bool} {β : Type} {d : Demand} {g : Unit → Script β} (hd : demands d)
      (hg : Charging demands calls true (g ())) : Charging demands calls charged (demand d >>= g)

/-- A script that charges first does nothing but charge and ask. -/
theorem Charging.confined {demands : Demand → Prop} {calls : Call → Prop} {charged : Bool}
    {x : Script α} (h : Charging demands calls charged x) :
    Confined { Powers.none with demands := demands, calls := calls } x := by
  induction h with
  | asking hx => exact hx.mono (fun _ => False.elim) (fun _ => id) (fun _ => id) fun _ _ => id
  | looking hx _ ih =>
    exact .bind (hx.mono (fun _ => False.elim) (fun _ => False.elim) (fun _ => id) fun _ _ => id) ih
  | demand hd _ ih => exact .bind (.demand hd) fun _ => ih

end Script

end BotScript
