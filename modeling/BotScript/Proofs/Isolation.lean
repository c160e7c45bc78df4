import BotScript.Proofs.Nested

/-! Two runs of one nested call, by callers that differ only in their template and in what is to
happen to their output.  A script is isolated if two such runs of it give the same, stay alike and
leave each caller's frame as it was.  What prepares a call is isolated step by step, and a script in
a frame of its own whatever it does, since the two runs of it start in one and the same session. -/

namespace BotScript

/-- Two frames that differ at most in their template and in what is to happen to the output. -/
structure Frame.Alike (f g : Frame) : Prop where
  channel : f.channel = g.channel
  isNested : f.isNested = g.isNested
  sendInDirect : f.sendInDirect = g.sendInDirect

/-- Two sessions whose frames are alike and that agree on everything else. -/
structure Session.Alike (s1 s2 : Session) : Prop where
  frame : s1.frame.Alike s2.frame
  bag : s1.bag = s2.bag
  ledger : s1.ledger = s2.ledger
  patterns : s1.patterns = s2.patterns
  log : s1.log = s2.log

/-- In another frame two sessions that are alike become one. -/
theorem Session.Alike.reframe {s1 s2 : Session} (h : s1.Alike s2) (frame : Frame) :
    { s1 with frame := frame } = { s2 with frame := frame } := by
  rw [h.bag, h.ledger, h.patterns, h.log]

namespace Script

variable {α β : Type}

/-- Two runs, from `s1` and from `s2`, that give the same, end alike and leave the frames as they
were. -/
structure AlikeRuns (s1 s2 : Session) (run1 run2 : Except Fault α × Session) : Prop where
  answer : run1.1 = run2.1
  ends : run1.2.Alike run2.2
  frame1 : run1.2.frame = s1.frame
  frame2 : run2.2.frame = s2.frame

/-- Whether a script runs alike from sessions that are alike. -/
def Isolated (x : Script α) : Prop :=
  ∀ env s1 s2, s1.Alike s2 → AlikeRuns s1 s2 (x.perform env s1) (x.perform env s2)

namespace Isolated

theorem ofExcept (r : Except Fault α) : Isolated (ofExcept r) := fun _ _ _ h => ⟨rfl, h, rfl, rfl⟩

theorem pure (a : α) : Isolated (Pure.pure a : Script α) := ofExcept (.ok a)

theorem throw (fault : Fault) : Isolated (MonadExcept.throw fault : Script α) :=
  ofExcept (.error fault)

theorem orMissing (what : Missing) (found : Option α) : Isolated (orMissing what found) := by
  cases found with
  | none => exact throw _
  | some a => exact pure a

theorem ask (f : Environment → α) : Isolated (ask f) := fun _ _ _ h => ⟨rfl, h, rfl, rfl⟩

theorem look {f : Session → α} (hf : ∀ s1 s2, s1.Alike s2 → f s1 = f s2) : Isolated (look f) :=
  fun _ s1 s2 h => ⟨congrArg Except.ok (hf s1 s2 h), h, rfl, rfl⟩

theorem demand (d : Demand) : Isolated (demand d) := by
  intro env s1 s2 h
  rw [perform_demand, perform_demand, h.ledger, h.log]
  exact ⟨rfl, ⟨h.frame, h.bag, rfl, h.patterns, rfl⟩, rfl, rfl⟩

theorem call (c : Call) : Isolated (call c) := by
  intro env s1 s2 h
  rw [perform_call, perform_call, h.log]
  exact ⟨rfl, ⟨h.frame, h.bag, h.ledger, h.patterns, rfl⟩, rfl, rfl⟩

theorem bind {x : Script α} {f : α → Script β} (hx : Isolated x) (hf : ∀ a, Isolated (f a)) :
    Isolated (x >>= f) := by
  intro env s1 s2 h
  have hFirst := hx env s1 s2 h
  rw [perform_bind, perform_bind]
  rcases hRun1 : x.perform env s1 with ⟨answer, mid1⟩
  rcases hRun2 : x.perform env s2 with ⟨_, mid2⟩
  rw [hRun1, hRun2] at hFirst
  obtain ⟨rfl, hMid, hFrame1, hFrame2⟩ := hFirst
  cases answer with
  | error fault => exact ⟨rfl, hMid, hFrame1, hFrame2⟩
  | ok a =>
    have hRest := hf a env mid1 mid2 hMid
    exact ⟨hRest.answer, hRest.ends, hRest.frame1.trans hFrame1, hRest.frame2.trans hFrame2⟩

/-- A script may look at its whole frame, if it goes on in the same way in frames that are alike. -/
theorem lookFrame {f : Frame → Script β} (hSame : ∀ f1 f2, f1.Alike f2 → f f1 = f f2)
    (hf : ∀ frame, Isolated (f frame)) : Isolated (Script.look (·.frame) >>= f) := by
  intro env s1 s2 h
  have hRest := hf s1.frame env s1 s2 h
  rw [perform_bind, perform_bind]
  simp only [perform_look]
  rw [← hSame s1.frame s2.frame h.frame]
  exact hRest

/-- Whatever a script does in a frame of its own, it does alike. -/
theorem within (frame : Frame) (x : Script α) : Isolated (within frame x) := by
  intro env s1 s2 h
  rw [perform_within, perform_within, h.reframe frame, h.bag]
  exact ⟨rfl, ⟨h.frame, rfl, rfl, rfl, rfl⟩, rfl, rfl⟩

end Isolated

/-! ### Nested calls -/

/-- A channel is found by what callers that are alike agree on. -/
theorem route_isolated (target : Target) : Isolated (route target) := by
  refine .lookFrame (fun f1 f2 h => by rw [h.channel, h.sendInDirect]) fun frame => ?_
  split
  · refine .bind (.ask _) fun trigger => ?_
    have hOpens : Isolated (do
        let member ← orMissing .triggerMember trigger.member
        let channel ← call (.openDirect member.user)
        return (channel, frame.sendInDirect)) :=
      .bind (.orMissing _ _) fun member => .bind (.call _) fun _ => .pure _
    simp only
    split
    · refine .bind (.throw _) fun _ => ?_
      split
      · exact .pure _
      · exact hOpens
    · split
      · exact .pure _
      · exact hOpens
  · exact .bind (.orMissing _ _) fun _ => .pure _
  · exact .bind (.ask _) fun _ => .bind (.orMissing _ _) fun _ => .pure _

theorem lookUp_isolated (name : String) (target : Target) : Isolated (lookUp name target) :=
  .bind (.ask _) fun _ => .bind (.orMissing _ _) fun _ => .bind (route_isolated target) fun _ =>
    .pure _

theorem prepare_isolated (name : String) (target : Target) : Isolated (prepare name target) := by
  have hOuter : ∀ _ : Unit, Isolated (do
      if ← look (·.frame.isNested) then throw .nested
      lookUp name target) := by
    refine fun _ => .bind (.look fun s1 s2 h => h.frame.isNested) fun isNested => ?_
    split
    · exact .bind (.throw _) fun _ => lookUp_isolated name target
    · exact lookUp_isolated name target
  refine .bind (.ask _) fun limits => .bind (.demand _) fun _ => ?_
  simp only
  split
  · exact .bind (.throw _) hOuter
  · exact hOuter ()

/-- Neither the caller's template nor anything that is to happen to the caller's output makes a
difference to a nested call, and the call touches none of it, whatever the body does.  From callers
that are alike the call gives the same and the same events follow, among them the calls of the
platform with all that they are passed.  The sessions are alike again afterwards, and each caller
has its own frame back as it was. -/
theorem nested_isolated (engine : Engine) (name : String) (target : Target)
    (arguments : List Value) (env : Environment) {s1 s2 : Session} (h : s1.Alike s2) :
    let run1 := (nested engine name target arguments).perform env s1
    let run2 := (nested engine name target arguments).perform env s2
    run1.1 = run2.1 ∧
    (∀ new, run1.2.log = new ++ s1.log ↔ run2.2.log = new ++ s2.log) ∧
    run1.2.Alike run2.2 ∧ run1.2.frame = s1.frame ∧ run2.2.frame = s2.frame := by
  have hNested : Isolated (nested engine name target arguments) :=
    .bind (prepare_isolated name target) fun _ => .within _ _
  obtain ⟨hAnswer, hEnds, hFrame1, hFrame2⟩ := hNested env s1 s2 h
  refine ⟨hAnswer, fun new => ?_, hEnds, hFrame1, hFrame2⟩
  rw [hEnds.log, h.log]

/-- The start of an execution, but for a caller that wants its output deleted and reacted to. -/
def eagerSession : Session :=
  { sampleEnvironment.start with
    frame := { sampleEnvironment.start.frame with
      deleteResponse := true, deleteDelay := 3, mentionRoles := [4], reactions := ["ok"] } }

/-- The reactions of a caller are none of the body's: what a body renders as blank is not sent. -/
theorem nested_isolated_from_eager :
    let run1 := (nested (fun _ => pure "") "child" (.channel none) []).perform sampleEnvironment
      sampleEnvironment.start
    let run2 := (nested (fun _ => pure "") "child" (.channel none) []).perform sampleEnvironment
      eagerSession
    sampleEnvironment.start.frame ≠ eagerSession.frame ∧
    run2.1 = .ok (.text "") ∧ run1.2.log = run2.2.log ∧ run2.2.frame.reactions = ["ok"] := by
  intro run1 run2
  have hAlike : sampleEnvironment.start.Alike eagerSession :=
    ⟨⟨rfl, rfl, rfl⟩, rfl, rfl, rfl, rfl⟩
  obtain ⟨hAnswer, -, hEnds, -, hFrame⟩ :=
    nested_isolated (fun _ => pure "") "child" (.channel none) [] sampleEnvironment hAlike
  have hFirst : run1.1 = .ok (.text "") := rfl
  refine ⟨by decide, hAnswer.symm.trans hFirst, hEnds.log, ?_⟩
  rw [hFrame]
  rfl

end Script

end BotScript
