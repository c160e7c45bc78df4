import BotScript.Pattern.Cache
import BotScript.Platform

/-! Executions: what one cannot change, what it carries along, and the scripts that run in it.  A
fault ends a script and leaves what it has done so far. -/

namespace BotScript

/-- What stays the same during an execution. -/
structure Environment where
  trigger : Trigger
  limits : Limits
  host : Host

/-- What an execution carries along.  `bag` holds the data that scripts can see, and `log` what has
happened, the latest first. -/
structure Session where
  frame : Frame
  bag : TextDict
  ledger : Ledger
  patterns : PatternCache
  log : List Event

/-- The session with which an execution starts. -/
def Environment.start (env : Environment) : Session where
  frame := .root env.trigger.channel
  bag := []
  ledger := .start env.limits env.trigger.premium
  patterns := .empty env.limits.patterns
  log := []

/-- What runs in an execution and gives a value or a fault. -/
abbrev Script := ReaderT Environment (ExceptT Fault (StateM Session))

namespace Script

variable {α β : Type}

/-- The outcome of a script and the session after it. -/
def perform (x : Script α) (env : Environment) (s : Session) : Except Fault α × Session := x env s

/-- An outcome that is known already. -/
def ofExcept (r : Except Fault α) : Script α := fun _ s => (r, s)

/-- An outcome that is known already, where a mistake is at fault. -/
def orMistake (r : Except Mistake α) : Script α := ofExcept (r.mapError .invalid)

/-- What was looked for, or the fault that it is missing. -/
def orMissing (what : Missing) : Option α → Script α
  | some a => pure a
  | none => throw (.missing what)

/-- Something of the environment. -/
def ask (f : Environment → α) : Script α := fun env s => (.ok (f env), s)

/-- Something of the session. -/
def look (f : Session → α) : Script α := fun _ s => (.ok (f s), s)

/-- Changes the session. -/
def edit (f : Session → Session) : Script Unit := fun _ s => (.ok (), f s)

/-- Changes the current frame. -/
def editFrame (f : Frame → Frame) : Script Unit := edit fun s => { s with frame := f s.frame }

/-- Changes the data that scripts can see. -/
def editBag (f : TextDict → TextDict) : Script Unit := edit fun s => { s with bag := f s.bag }

/-- Notes an event. -/
def note (e : Event) : Script Unit := edit fun s => { s with log := e :: s.log }

/-- Demands something of the budgets. -/
def demand (d : Demand) : Script Unit := fun _ s =>
  let (outcome, ledger) := s.ledger.ensure d
  (outcome, { s with ledger := ledger, log := .demanded d outcome.toBool :: s.log })

/-- Asks the platform to do something. -/
def call (c : Call) : Script c.Reply := fun env s =>
  let answer := env.host.answer s.log c
  (answer, { s with log := .called c answer.toBool :: s.log })

/-- Sleeps, if the budget allows it. -/
def sleep (seconds : Int64) : Script Unit := do
  demand (.sleep seconds)
  note (.slept seconds.toInt.toNat)

/-- Compiles a pattern, or takes it from those that were compiled before. -/
def compile (source : String) : Script Pattern := fun _ s =>
  match s.patterns.request source with
  | .ok (pattern, patterns) => (.ok pattern, { s with patterns := patterns })
  | .error fault => (.error fault, s)

/-- A number below a bound, drawn at random. -/
def draw (bound : Nat) : Script Nat := fun env s => (.ok (env.host.draw s.log bound % bound), s)

/-- The instant at which the script is. -/
def now : Script Instant := fun env s => (.ok (env.host.clock s.log), s)

/-- The outcome of a script as a value; whatever it is, the script goes on. -/
def outcome (x : Script α) : Script (Except Fault α) := fun env s =>
  let (result, after) := x env s
  (.ok result, after)

/-! ### What each script gives and leaves -/

@[simp] theorem perform_pure (a : α) (env : Environment) (s : Session) :
    (pure a : Script α).perform env s = (.ok a, s) := rfl

@[simp] theorem perform_throw (fault : Fault) (env : Environment) (s : Session) :
    (throw fault : Script α).perform env s = (.error fault, s) := rfl

/-- The second script runs if the first gives a value, in the session that the first leaves. -/
@[simp] theorem perform_bind (x : Script α) (f : α → Script β) (env : Environment) (s : Session) :
    (x >>= f).perform env s = match x.perform env s with
      | (.ok a, after) => (f a).perform env after
      | (.error fault, after) => (.error fault, after) := by
  simp only [perform, bind, ReaderT.bind, ExceptT.bind, ExceptT.mk, StateT.bind]
  rcases x env s with ⟨_ | _, _⟩ <;> rfl

/-- Two scripts in a row leave a session that is related to the one before them, if what each of
them leaves is. -/
theorem perform_bind_trans {R : Session → Session → Prop} {x : Script α} {f : α → Script β}
    {env : Environment} {s : Session} (hTrans : ∀ {s1 s2 s3}, R s1 s2 → R s2 s3 → R s1 s3)
    (hx : R s (x.perform env s).2) (hf : ∀ a after, R after ((f a).perform env after).2) :
    R s ((x >>= f).perform env s).2 := by
  rw [perform_bind]
  rcases hPerform : x.perform env s with ⟨fault | a, after⟩
  · rw [hPerform] at hx
    exact hx
  · rw [hPerform] at hx
    exact hTrans hx (hf a after)

/-- Two scripts in a row give a value if and only if both do. -/
theorem perform_bind_eq_ok {x : Script α} {f : α → Script β} {env : Environment} {s after : Session}
    {b : β} : (x >>= f).perform env s = (.ok b, after) ↔
      ∃ a mid, x.perform env s = (.ok a, mid) ∧ (f a).perform env mid = (.ok b, after) := by
  rw [perform_bind]
  rcases x.perform env s with ⟨fault | a, mid⟩
  · simp
  · constructor
    · exact fun h => ⟨a, mid, rfl, h⟩
    · rintro ⟨_, _, hx, h⟩
      cases hx
      exact h

@[simp] theorem perform_map (f : α → β) (x : Script α) (env : Environment) (s : Session) :
    (f <$> x).perform env s = ((x.perform env s).1.map f, (x.perform env s).2) := by
  simp only [perform, Functor.map, ExceptT.map, ExceptT.mk, StateT.bind, bind]
  rcases x env s with ⟨_ | _, _⟩ <;> rfl

@[simp] theorem perform_ite (c : Prop) [Decidable c] (x y : Script α) (env : Environment)
    (s : Session) :
    (if c then x else y).perform env s = if c then x.perform env s else y.perform env s := by
  split <;> rfl

@[simp] theorem perform_ofExcept (r : Except Fault α) (env : Environment) (s : Session) :
    (ofExcept r).perform env s = (r, s) := rfl

@[simp] theorem perform_ask (f : Environment → α) (env : Environment) (s : Session) :
    (ask f).perform env s = (.ok (f env), s) := rfl

@[simp] theorem perform_look (f : Session → α) (env : Environment) (s : Session) :
    (look f).perform env s = (.ok (f s), s) := rfl

@[simp] theorem perform_edit (f : Session → Session) (env : Environment) (s : Session) :
    (edit f).perform env s = (.ok (), f s) := rfl

@[simp] theorem perform_now (env : Environment) (s : Session) :
    now.perform env s = (.ok (env.host.clock s.log), s) := rfl

@[simp] theorem perform_outcome (x : Script α) (env : Environment) (s : Session) :
    (outcome x).perform env s = (.ok (x.perform env s).1, (x.perform env s).2) := rfl

theorem perform_compile (source : String) (env : Environment) (s : Session) :
    (compile source).perform env s = match s.patterns.request source with
      | .ok (pattern, patterns) => (.ok pattern, { s with patterns := patterns })
      | .error fault => (.error fault, s) := rfl

/-- A demand changes nothing but the ledger and the log. -/
theorem perform_demand (d : Demand) (env : Environment) (s : Session) :
    (demand d).perform env s =
      ((s.ledger.ensure d).1,
        { s with
          ledger := (s.ledger.ensure d).2
          log := .demanded d (s.ledger.ensure d).1.toBool :: s.log }) := rfl

/-- A call changes nothing but the log. -/
theorem perform_call (c : Call) (env : Environment) (s : Session) :
    (call c).perform env s =
      (env.host.answer s.log c,
        { s with log := .called c (env.host.answer s.log c).toBool :: s.log }) := rfl

/-- A script that gives what a call answers has nothing to add to the call. -/
theorem perform_call_return (c : Call) (give : c.Reply → β) (env : Environment) (s : Session) :
    (do let reply ← call c; return give reply : Script β).perform env s =
      ((env.host.answer s.log c).map give,
        { s with log := .called c (env.host.answer s.log c).toBool :: s.log }) := by
  rw [perform_bind, perform_call]
  rcases env.host.answer s.log c with fault | reply <;> rfl

section Success

variable {env : Environment} {s after : Session}

theorem perform_call_eq_ok {c : Call} {reply : c.Reply}
    (h : (call c).perform env s = (.ok reply, after)) :
    env.host.answer s.log c = .ok reply ∧ after = { s with log := .called c true :: s.log } := by
  rw [perform_call] at h
  obtain ⟨hAnswer, rfl⟩ := Prod.mk.inj h
  rw [hAnswer]
  exact ⟨rfl, rfl⟩

theorem perform_orMissing_eq_ok {what : Missing} {found : Option α} {a : α}
    (h : (orMissing what found).perform env s = (.ok a, after)) : found = some a ∧ after = s := by
  cases found with
  | none => exact nomatch h
  | some b =>
    cases h
    exact ⟨rfl, rfl⟩

end Success

end Script

end BotScript
