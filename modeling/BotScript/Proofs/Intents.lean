import BotScript.Proofs.Builtin.Intents

/-! What is asked for along runs that change frames through functions alone.  `Unedited` are the
composed scripts without other edits of the frame, and `Stages` says at which sessions control can
be while they run, and which frames are saved then.  Each frame keeps its bounds, all frames
together have no more reactions than were granted, and no deletion is asked for too late:
`Stages.intents`. -/

namespace BotScript

open Script

/-! ### Nested calls -/

section Nested

variable (name : String) (target : Target) (arguments : List Value) (env : Environment)
  (s : Session)

theorem prepare_quiet : ∃ new, ((prepare name target).perform env s).2.log = new ++ s.log ∧
    ∀ e ∈ new, e.isQuiet = true := by
  obtain ⟨new, hLeaves, hNew⟩ := prepare_leaves name target env s
  rw [hLeaves]
  refine ⟨new ++ [_], List.append_cons new _ s.log, fun e he => ?_⟩
  rcases List.mem_append.mp he with hCall | hDemand
  · obtain ⟨c, succeeded, ⟨user, rfl⟩, rfl⟩ := hNew e hCall
    rfl
  · rw [List.mem_singleton.mp hDemand]
    rfl

/-- A body starts with nothing that is to happen to its output. -/
theorem bodyStart_quiet {t : Template} {start : Session}
    (hStart : bodyStart? name target arguments env s = some (t, start)) :
    start.frame.Bounded env.limits ∧ start.frame.reactions = [] ∧
      ∃ new, start.log = new ++ s.log ∧ ∀ e ∈ new, e.isQuiet = true := by
  obtain ⟨frame, ready, value, hPrepare, -, rfl⟩ :=
    bodyStart?_eq_some name target arguments env s hStart
  obtain ⟨channel, direct, rfl⟩ := (prepared_of_perform name target env s hPrepare).frame
  obtain ⟨new, hLog, hNew⟩ := prepare_quiet name target env s
  rw [hPrepare] at hLog
  refine ⟨Frame.bounded_nested channel t direct, rfl,
    .began (.nested channel t direct) :: new, ?_, fun e he => ?_⟩
  · rw [List.cons_append, ← hLog]
  · rcases List.mem_cons.mp he with rfl | hBefore
    · rfl
    · exact hNew e hBefore

/-- The frame of a body joins those that have ended, with the reactions that it paid for. -/
theorem bodyEnd_keepsIntents {start done : Session} {begun later : List Event} {bag : TextDict}
    (hReactions : start.frame.reactions = []) (hBegun : start.log = begun ++ s.log)
    (hQuiet : ∀ e ∈ begun, e.isQuiet = true) (hBody : KeepsIntents env start done)
    (hLater : ∀ e ∈ later, e.isQuiet = true) :
    KeepsIntents env s { done with
      frame := s.frame
      bag := bag
      log := later ++ .ended done.frame :: done.log } := by
  refine ⟨id, fun hs => ?_, ?_⟩
  · have hStart : Prompt env start.log := by
      rw [hBegun]
      exact hs.append_of_quiet hQuiet
    have hEnded : Prompt env (.ended done.frame :: done.log) := (hBody.prompt hStart).cons nofun
    exact hEnded.append_of_quiet hLater
  · have hPaid := hBody.paid
    have hStart : endedFrames start.log = endedFrames s.log := by
      rw [hBegun]
      exact endedFrames_append_of_quiet hQuiet s.log
    have hEnd : endedFrames (later ++ .ended done.frame :: done.log) =
        done.frame :: endedFrames done.log :=
      endedFrames_append_of_quiet hLater _
    have hMore : granted reactionDemand s.log ≤ granted reactionDemand start.log := by
      rw [hBegun, granted_append]
      exact Nat.le_add_left _ _
    have hLast : granted reactionDemand (later ++ .ended done.frame :: done.log) =
        granted reactionDemand later + granted reactionDemand done.log := by
      rw [granted_append]
      rfl
    simp only [Measure.allReactions, reactionCount, List.map_cons, List.sum_cons, hStart, hEnd,
      hReactions, hLast, List.length_nil] at hPaid ⊢
    omega

theorem nested_keepsIntents {engine : Engine}
    (hEngine : ∀ t start, KeepsIntents env start ((engine t).perform env start).2) :
    KeepsIntents env s ((nested engine name target arguments).perform env s).2 := by
  rcases hStart : bodyStart? name target arguments env s with _ | ⟨t, start⟩
  · obtain ⟨fault, bag, hPerform, -⟩ := perform_nested_of_none name target arguments env s hStart
    obtain ⟨new, hLog, hNew⟩ := prepare_quiet name target env s
    rw [hPerform engine]
    exact .of_quiet hLog hNew id rfl
  · obtain ⟨-, hReactions, begun, hBegun, hQuiet⟩ :=
      bodyStart_quiet name target arguments env s hStart
    obtain ⟨later, hLast, hLater⟩ := deliver_leaves env
      (((engine t).perform env start).2.noting (.ended ((engine t).perform env start).2.frame))
      ((engine t).perform env start).1
    rw [perform_nested_of_start name target arguments env s engine hStart]
    simp only [hLast]
    refine bodyEnd_keepsIntents env s hReactions hBegun hQuiet (hEngine t start)
      fun e he => ?_
    obtain ⟨c, succeeded, ⟨frame, text, rfl⟩, rfl⟩ := hLater e he
    rfl

theorem builtin_keepsIntents {engine : Engine} (b : Builtin)
    (hEngine : ∀ t start, KeepsIntents env start ((engine t).perform env start).2) :
    KeepsIntents env s ((b.run engine arguments).perform env s).2 := by
  rcases hOwn : b.runsTemplate with _ | _
  · exact b.run_keepsIntents engine hOwn arguments env s
  · cases b with
    | sendTemplate | sendTemplateDM =>
      exact perform_bind_trans KeepsIntents.trans (.refl env s) fun _ after =>
        nested_keepsIntents _ _ _ env after hEngine
    | _ => exact nomatch hOwn

end Nested

/-! ### Runs -/

/-- A composed script that changes frames through functions alone. -/
inductive Unedited : {α : Type} → Script α → Prop
  | pure {α : Type} (a : α) : Unedited (pure a)
  | throw {α : Type} (fault : Fault) : Unedited (throw fault : Script α)
  | bind {α β : Type} {x : Script α} {f : α → Script β} (hx : Unedited x)
      (hf : ∀ a, Unedited (f a)) : Unedited (x >>= f)
  | outcome {α : Type} {x : Script α} (hx : Unedited x) : Unedited (outcome x)
  | ask {α : Type} (f : Environment → α) : Unedited (ask f)
  | look {α : Type} (f : Session → α) : Unedited (look f)
  | builtin {engine : Engine} (hEngine : ∀ t, Unedited (engine t)) (b : Builtin)
      (arguments : List Value) : Unedited (b.run engine arguments)
  | nested {engine : Engine} (hEngine : ∀ t, Unedited (engine t)) (name : String)
      (target : Target) (arguments : List Value) : Unedited (nested engine name target arguments)
  | run {engine : Engine} {t : Template} (h : Unedited (engine t)) : Unedited (run engine t)
  | respond (output : String) : Unedited (respond output)
  | editBag (f : TextDict → TextDict) : Unedited (editBag f)

theorem Unedited.composed {α : Type} {x : Script α} (h : Unedited x) : Composed x := by
  induction h with
  | pure a => exact .pure a
  | throw fault => exact .throw fault
  | bind _ _ ihx ihf => exact .bind ihx ihf
  | outcome _ ih => exact .outcome ih
  | ask f => exact .ask f
  | look f => exact .look f
  | builtin _ b arguments ih => exact .builtin ih b arguments
  | nested _ name target arguments ih => exact .nested ih name target arguments
  | run _ ih => exact .run ih
  | respond output => exact .respond output
  | editBag f => exact .editBag f

theorem Unedited.keepsIntents {α : Type} {x : Script α} (h : Unedited x) (env : Environment)
    (s : Session) : KeepsIntents env s (x.perform env s).2 := by
  induction h generalizing s with
  | pure a | throw fault | ask f | look f => exact .refl env s
  | bind _ _ ihx ihf => exact perform_bind_trans KeepsIntents.trans (ihx s) ihf
  | outcome _ ih =>
    rw [perform_outcome]
    exact ih s
  | builtin _ b arguments ih =>
    exact builtin_keepsIntents arguments env s b fun t start => ih t start
  | nested _ name target arguments ih =>
    exact nested_keepsIntents name target arguments env s fun t start => ih t start
  | @run engine t _ ih =>
    have hEdit : KeepsIntents env s { s with frame := { s.frame with template := some t } } :=
      .of_quiet (List.nil_append s.log).symm (by simp) (fun h => ⟨h.delay, h.distinct, h.ids⟩) rfl
    exact hEdit.trans (ih _)
  | respond output =>
    obtain ⟨new, hLast, hNew⟩ := (respond_confined output).asks env s
    rw [hLast]
    refine .of_quiet rfl (fun e he => ?_) id rfl
    obtain ⟨c, succeeded, ⟨frame, text, rfl⟩, rfl⟩ := hNew e he
    rfl
  | editBag f => exact .of_quiet (List.nil_append s.log).symm (by simp) id rfl

/-- The sessions at which control can be during a run that starts afresh and changes frames through
functions alone, with the frames that are saved then, the innermost first. -/
inductive Stages (env : Environment) : List Frame → Session → Prop
  | start : Stages env [] env.start
  | act {saved : List Frame} {s : Session} {α : Type} {x : Script α} (h : Stages env saved s)
      (hx : Unedited x) : Stages env saved (x.perform env s).2
  | enter {saved : List Frame} {s start : Session} {name : String} {target : Target}
      {arguments : List Value} {t : Template} (h : Stages env saved s)
      (hStart : bodyStart? name target arguments env s = some (t, start)) :
      Stages env (s.frame :: saved) start

/-- The frames of an execution: the current one, those that are saved, and those that have ended. -/
def framesOf (saved : List Frame) (s : Session) : List Frame :=
  s.frame :: saved ++ endedFrames s.log

theorem reactionCount_framesOf (saved : List Frame) (s : Session) :
    reactionCount (framesOf saved s) = reactionCount saved + Measure.allReactions.value s := by
  simp only [framesOf, reactionCount, Measure.allReactions, List.cons_append, List.map_cons,
    List.map_append, List.sum_cons, List.sum_append]
  omega

/-- What is true at every stage: each frame is within its bounds, deletions were asked for in time,
the reactions of all frames were granted, and what happened is booked. -/
structure Stages.Invariant (env : Environment) (saved : List Frame) (s : Session) : Prop where
  bounded : ∀ f ∈ s.frame :: saved, f.Bounded env.limits
  prompt : Prompt env s.log
  paid : reactionCount (framesOf saved s) ≤ granted reactionDemand s.log
  booked : Precedes env.start s

section Invariant

variable {env : Environment} {saved : List Frame} {s : Session}

theorem Stages.Invariant.start : Stages.Invariant env [] env.start := by
  refine ⟨?_, ?_, Nat.le_refl 0, .refl _⟩
  · intro f hf
    rw [List.mem_singleton.mp hf]
    exact Frame.bounded_root _
  · intro guild channel message due succeeded earlier hSuffix
    exact absurd (List.suffix_nil.mp hSuffix) (List.cons_ne_nil _ _)

/-- A script acts in the current frame, and leaves those that are saved alone. -/
theorem Stages.Invariant.act {α : Type} {x : Script α} (h : Stages.Invariant env saved s)
    (hx : Unedited x) : Stages.Invariant env saved (x.perform env s).2 := by
  have hKeeps := hx.keepsIntents env s
  obtain ⟨acts, hActs⟩ := hx.composed.enacts env s
  obtain ⟨new, hRecords⟩ := hActs.records
  obtain ⟨hCurrent, hSaved⟩ := List.forall_mem_cons.mp h.bounded
  refine ⟨List.forall_mem_cons.mpr ⟨hKeeps.bounded hCurrent, hSaved⟩, hKeeps.prompt h.prompt, ?_,
    h.booked.trans ⟨new, hRecords.toBooks⟩⟩
  have hPaid := h.paid
  have hMore := hKeeps.paid
  rw [reactionCount_framesOf] at hPaid ⊢
  omega

/-- When a body starts, the frame of its caller is saved, and a new one without reactions is the
current one. -/
theorem Stages.Invariant.enter {name : String} {target : Target} {arguments : List Value}
    {t : Template} {start : Session} (h : Stages.Invariant env saved s)
    (hStart : bodyStart? name target arguments env s = some (t, start)) :
    Stages.Invariant env (s.frame :: saved) start := by
  obtain ⟨hBounded, hReactions, begun, hBegun, hQuiet⟩ :=
    bodyStart_quiet name target arguments env s hStart
  obtain ⟨new, hRecords⟩ := bodyStart_records name target arguments env s hStart
  refine ⟨List.forall_mem_cons.mpr ⟨hBounded, h.bounded⟩, ?_, ?_,
    h.booked.trans ⟨new, hRecords.toBooks⟩⟩
  · rw [hBegun]
    exact h.prompt.append_of_quiet hQuiet
  · have hPaid := h.paid
    have hEnded : endedFrames start.log = endedFrames s.log := by
      rw [hBegun]
      exact endedFrames_append_of_quiet hQuiet s.log
    have hGranted : granted reactionDemand start.log =
        granted reactionDemand begun + granted reactionDemand s.log := by
      rw [hBegun, granted_append]
    simp only [framesOf, reactionCount, List.cons_append, List.map_cons, List.sum_cons,
      hReactions, hEnded, List.length_nil] at hPaid ⊢
    omega

theorem Stages.invariant (h : Stages env saved s) : Stages.Invariant env saved s := by
  induction h with
  | start => exact .start
  | act _ hx ih => exact ih.act hx
  | enter _ hStart ih => exact ih.enter hStart

end Invariant

/-- At every stage each frame, current or saved, is within its bounds, all frames that there have
been have no more reactions together than were counted, and no more than 20, and every deletion was
asked for within the limit after its call. -/
theorem Stages.intents {env : Environment} {saved : List Frame} {s : Session}
    (h : Stages env saved s) :
    (∀ f ∈ s.frame :: saved, f.Bounded env.limits) ∧
    reactionCount (framesOf saved s) ≤ 20 ∧
    reactionCount (framesOf saved s) ≤ s.ledger.count "add_reaction_response" ∧
    Prompt env s.log := by
  obtain ⟨hBounded, hPrompt, hPaid, new, hBooks⟩ := h.invariant
  have hLog : s.log = new := hBooks.log.trans (List.append_nil new)
  have hMax : maxReactions < Ledger.maxCount := by decide
  obtain ⟨hCount, hCeiling⟩ := hBooks.booked.granted_le (d := reactionDemand) rfl hMax
  rw [← hBooks.ledger] at hCount
  rw [← hLog] at hCount hCeiling
  exact ⟨hBounded, hPaid.trans hCeiling, hPaid.trans hCount, hPrompt⟩

/-- Adds reactions to the response, and has both it and the triggering message deleted. -/
def intend (emojis : List Value) (delay : Value) : Script Value := do
  let _ ← Builtin.addResponseReactions.run (fun _ => pure "") emojis
  let _ ← Builtin.deleteResponse.run (fun _ => pure "") [delay]
  Builtin.deleteTrigger.run (fun _ => pure "") [delay]

theorem unedited_intend (emojis : List Value) (delay : Value) : Unedited (intend emojis delay) :=
  .bind (.builtin (fun _ => .pure "") _ _) fun _ => .bind (.builtin (fun _ => .pure "") _ _)
    fun _ => .builtin (fun _ => .pure "") _ _

/-- A template and the one that it runs both ask for reactions and for deletions, the one a negative
time later and the other much too late. -/
theorem intents_in_first_child : ∃ saved s, Stages sampleEnvironment saved s ∧
    saved.map (·.reactions) = [["a", "b"]] ∧ saved.map (·.deleteDelay) = [0] ∧
    s.frame.reactions = ["c"] ∧ s.frame.deleteResponse = true ∧ s.frame.deleteDelay ≤ 86400 ∧
    3 ≤ s.ledger.count "add_reaction_response" ∧
    callsIn Call.isScheduledDeletion s.log = 2 ∧ Prompt sampleEnvironment s.log := by
  have hOuter := Stages.act (@Stages.start sampleEnvironment)
    (unedited_intend [.text "a", .text "b"] (.int (-5)))
  have hInner : ∃ saved s, Stages sampleEnvironment saved s ∧
      saved.map (·.reactions) = [["a", "b"]] ∧ saved.map (·.deleteDelay) = [0] ∧
      s.frame.reactions = ["c"] ∧ s.frame.deleteResponse = true ∧
      callsIn Call.isScheduledDeletion s.log = 2 ∧ reactionCount (framesOf saved s) = 3 :=
    ⟨_, _, .act (@Stages.enter _ _ _ _ "child" (.channel none) [] _ hOuter rfl)
      (unedited_intend [.text "c"] (.text "99999999999999999999")), by decide, by decide, by decide,
      by decide, by decide, by decide⟩
  obtain ⟨saved, s, hStages, hReactions, hDelay, hCurrent, hDelete, hCalls, hThree⟩ := hInner
  obtain ⟨hBounded, -, hCounted, hPrompt⟩ := hStages.intents
  rw [hThree] at hCounted
  exact ⟨saved, s, hStages, hReactions, hDelay, hCurrent, hDelete,
    (hBounded s.frame List.mem_cons_self).delay hDelete, hCounted, hCalls, hPrompt⟩

end BotScript
