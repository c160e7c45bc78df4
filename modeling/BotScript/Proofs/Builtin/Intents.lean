import BotScript.Proofs.Budgets
import BotScript.Proofs.Builtin.RoleDelay
import BotScript.Proofs.Builtin.Untouched

/-! What functions ask for.  A frame says what is to happen to its response, within bounds
(`Frame.Bounded`), deletions are asked for within a limit after the call (`Prompt`), and each
reaction to a response is paid for.  `Builtin.run_keepsIntents` says that the functions keep all
three, the two that run nested templates apart. -/

namespace BotScript

open Relation Script

/-! ### Bounds of a frame -/

/-- A response is deleted no later than the limit allows, and the roles that it mentions are
distinct and have numbers of 63 bits, zero left out. -/
structure Frame.Bounded (limits : Limits) (f : Frame) : Prop where
  delay : f.deleteResponse = true → f.deleteDelay ≤ limits.deleteDelay
  distinct : f.mentionRoles.Nodup
  ids : ∀ role ∈ f.mentionRoles, 1 ≤ role ∧ role ≤ 2 ^ 63 - 1

namespace Frame

variable {limits : Limits} {f g : Frame}

theorem bounded_root (channel : Option Channel) : (root channel).Bounded limits :=
  ⟨nofun, List.nodup_nil, by simp [root]⟩

theorem bounded_nested (channel : Channel) (t : Template) (direct : Bool) :
    (nested channel t direct).Bounded limits :=
  ⟨nofun, List.nodup_nil, by simp [nested, root]⟩

theorem Bounded.of_same (h : f.Bounded limits)
    (hDeletion : g.deleteResponse = f.deleteResponse ∧ g.deleteDelay = f.deleteDelay)
    (hRoles : g.mentionRoles = f.mentionRoles) : g.Bounded limits := by
  obtain ⟨hDelete, hDelay⟩ := hDeletion
  refine ⟨?_, ?_, ?_⟩
  · rw [hDelete, hDelay]
    exact h.delay
  · rw [hRoles]
    exact h.distinct
  · rw [hRoles]
    exact h.ids

theorem Bounded.mentionRole (h : f.Bounded limits) {role : Nat}
    (hRole : 1 ≤ role ∧ role ≤ 2 ^ 63 - 1) : (f.mentionRole role).Bounded limits := by
  unfold Frame.mentionRole
  split
  · exact h
  · rename_i hNew
    have hNew : role ∉ f.mentionRoles := by simpa using hNew
    refine ⟨h.delay, h.distinct.append (List.nodup_singleton role) ?_, fun other hOther => ?_⟩
    · simpa using hNew
    · rcases List.mem_append.mp hOther with hOld | hLast
      · exact h.ids other hOld
      · rw [List.mem_singleton.mp hLast]
        exact hRole

end Frame

theorem idOf_bounds {function : String} {v : Value} {id : Nat} (h : idOf function v = .ok id) :
    1 ≤ id ∧ id ≤ 2 ^ 63 - 1 := by
  have hHigh := v.toInt.toInt_lt
  unfold idOf at h
  split at h
  · cases h
    omega
  · exact nomatch h

theorem deleteDelay_le (limits : Limits) (delay : Option Value) :
    deleteDelay limits delay ≤ limits.deleteDelay := Nat.min_le_left _ _

theorem deleteResponse_bounded (arguments : List Value) (env : Environment) {s : Session}
    (h : s.frame.Bounded env.limits) :
    ((deleteResponse arguments).perform env s).2.frame.Bounded env.limits :=
  ⟨fun _ => deleteDelay_le env.limits _, h.distinct, h.ids⟩

theorem mentionRole_bounded (arguments : List Value) (env : Environment) {s : Session}
    (h : s.frame.Bounded env.limits) :
    ((mentionRole arguments).perform env s).2.frame.Bounded env.limits := by
  unfold Script.mentionRole
  rw [perform_bind]
  cases hId : idOf "mentionRoleID" (argument arguments 0) with
  | error mistake => exact h
  | ok role => exact h.mentionRole (idOf_bounds hId)

/-! ### Deletions that are asked for -/

/-- Every deletion in a log was asked for at an instant that is a number of seconds after the call,
and no more of them than the limit allows. -/
def Prompt (env : Environment) (log : List Event) : Prop :=
  ∀ guild channel message due succeeded earlier,
    .called (.scheduleDeleteMessage guild channel message due) succeeded :: earlier <:+ log →
      ∃ seconds : Nat, seconds ≤ env.limits.deleteDelay ∧ due.sinceEpoch =
        (env.host.clock earlier).sinceEpoch + seconds * Duration.nanosPerSecond

section Prompt

variable {env : Environment} {s : Session} {log new : List Event}

theorem Prompt.cons {e : Event} (h : Prompt env log)
    (he : ∀ guild channel message due succeeded,
      e = .called (.scheduleDeleteMessage guild channel message due) succeeded →
        ∃ seconds : Nat, seconds ≤ env.limits.deleteDelay ∧ due.sinceEpoch =
          (env.host.clock log).sinceEpoch + seconds * Duration.nanosPerSecond) :
    Prompt env (e :: log) := by
  intro guild channel message due succeeded earlier hSuffix
  rcases List.suffix_cons_iff.mp hSuffix with hNow | hBefore
  · obtain ⟨rfl, rfl⟩ := List.cons.inj hNow
    exact he guild channel message due succeeded rfl
  · exact h guild channel message due succeeded earlier hBefore

theorem Prompt.append (h : Prompt env log)
    (hNew : ∀ e ∈ new, Event.isCall Call.isScheduledDeletion e = false) :
    Prompt env (new ++ log) := by
  induction new with
  | nil => exact h
  | cons e rest ih =>
    refine (ih fun e he => hNew e (List.mem_cons_of_mem _ he)).cons ?_
    rintro guild channel message due succeeded rfl
    exact nomatch hNew _ List.mem_cons_self

/-- A script that asks for deletions in time only. -/
def Promptly (env : Environment) {α : Type} (x : Script α) : Prop :=
  ∀ s, Prompt env s.log → Prompt env (x.perform env s).2.log

variable {α β : Type} {x : Script α} {f : α → Script β}

theorem promptly_bind (hx : Promptly env x) (hf : ∀ a, Promptly env (f a)) :
    Promptly env (x >>= f) := fun s =>
  perform_bind_trans (R := fun s after => Prompt env s.log → Prompt env after.log)
    (fun h1 h2 => h2 ∘ h1) (hx s) hf

theorem promptly_ask_bind {g : Environment → α} (hf : Promptly env (f (g env))) :
    Promptly env (ask g >>= f) := by
  intro s hs
  rw [perform_bind, perform_ask]
  exact hf s hs

/-- A script that can ask for no deletion asks for none too late. -/
theorem promptly_of_confined {p : Powers} (hx : Confined p x)
    (hCalls : ∀ c, p.calls c → c.isScheduledDeletion = false) : Promptly env x := by
  intro s hs
  obtain ⟨new, hLeave⟩ := hx.leaves env s
  rw [hLeave.log]
  refine hs.append fun e he => ?_
  have hAllowed := hLeave.allowed e he
  cases e with
  | called c succeeded => exact hCalls c hAllowed
  | demanded _ _ | slept _ | began _ | ended _ => rfl

/-- The instant that is asked for is as many seconds from now as there are. -/
theorem perform_afterSeconds_eq_ok {mid : Session} {seconds : Nat} {due : Instant}
    (h : (afterSeconds seconds).perform env s = (.ok due, mid)) : mid = s ∧ due.sinceEpoch =
      (env.host.clock s.log).sinceEpoch + seconds * Duration.nanosPerSecond := by
  unfold afterSeconds at h
  by_cases hHigh : (seconds : Int) ≤ Duration.maxSeconds
  · obtain ⟨d, hDuration, hNanos⟩ := Duration.ofSeconds?_of_le (Int.natCast_nonneg seconds) hHigh
    rw [hDuration] at h
    have hAfter : (Script.after d).perform env s = (.ok due, mid) := h
    rw [Script.after, perform_bind, perform_now] at hAfter
    cases hDue : (env.host.clock s.log).after? d with
    | none => simp [hDue] at hAfter
    | some later =>
      simp only [hDue, perform_pure, Prod.mk.injEq, Except.ok.injEq] at hAfter
      obtain ⟨rfl, rfl⟩ := hAfter
      exact ⟨rfl, by rw [Instant.sinceEpoch_after hDue, hNanos]⟩
  · rw [Duration.ofSeconds?_of_lt (not_le.mp hHigh)] at h
    exact nomatch h

theorem schedule_promptly (channel message : Nat) {seconds : Nat}
    (hSeconds : seconds ≤ env.limits.deleteDelay) :
    Promptly env (do
      let due ← afterSeconds seconds
      call (.scheduleDeleteMessage (← ask (·.trigger.guild)) channel message due)
      return done : Script Value) := by
  -- The instant is read off the clock at the very session in which the call is made.
  have hBind : ∀ f : Instant → Script Value, (∀ s due, Prompt env s.log →
      due.sinceEpoch = (env.host.clock s.log).sinceEpoch + seconds * Duration.nanosPerSecond →
        Prompt env ((f due).perform env s).2.log) → Promptly env (afterSeconds seconds >>= f) := by
    intro f hf s hs
    have hSame := (perform_looking (afterSeconds_confined seconds) env s).1
    rw [perform_bind]
    rcases hPerform : (afterSeconds seconds).perform env s with ⟨fault | due, mid⟩
    · rw [hPerform] at hSame
      exact hSame ▸ hs
    · obtain ⟨rfl, hDue⟩ := perform_afterSeconds_eq_ok hPerform
      exact hf mid due hs hDue
  refine hBind _ fun s due hs hDue => ?_
  rw [perform_bind, perform_ask]
  simp only
  rw [perform_call_return _ (fun _ => done)]
  refine hs.cons ?_
  rintro _ _ _ _ _ ⟨⟩
  exact ⟨seconds, hSeconds, hDue⟩

theorem promptly_looking_bind (hx : Confined .none x) (hf : ∀ a, Promptly env (f a)) :
    Promptly env (x >>= f) :=
  promptly_bind (promptly_of_confined hx fun _ => False.elim) hf

theorem deleteTrigger_promptly (arguments : List Value) :
    Promptly env (deleteTrigger arguments) :=
  promptly_looking_bind triggerMessage_confined fun found => promptly_ask_bind <|
    schedule_promptly found.1 found.2 (deleteDelay_le env.limits _)

theorem deleteMessage_promptly (arguments : List Value) :
    Promptly env (deleteMessage arguments) := by
  have hDemand : Confined (.shared fun _ => False) (demand .apiCall) := .demand rfl
  refine promptly_looking_bind (.orMistake _) fun _ =>
    promptly_bind (promptly_of_confined hDemand fun _ => False.elim) fun _ =>
    promptly_looking_bind (channelOf_confined _) fun channel =>
    promptly_looking_bind (.orMistake _) fun message => promptly_ask_bind ?_
  simp only
  split
  · have hNow : Confined (.asking fun c => ∃ channel message, c = .deleteMessage channel message)
        (do call (.deleteMessage channel message); return done : Script Value) :=
      .bind (.call ⟨channel, message, rfl⟩) fun _ => .pure _
    refine promptly_of_confined hNow ?_
    rintro _ ⟨_, _, rfl⟩
    rfl
  · exact schedule_promptly channel message (deleteDelay_le env.limits _)

end Prompt

/-! ### Reactions of all frames -/

/-- The frame that a body ends with. -/
def Event.ended? : Event → Option Frame
  | .ended f => some f
  | _ => none

/-- The frames of the bodies that have ended in a log, as they were in the end. -/
def endedFrames (log : List Event) : List Frame := log.filterMap Event.ended?

theorem endedFrames_append_of_none {new : List Event} (hNew : ∀ e ∈ new, e.ended? = none)
    (log : List Event) : endedFrames (new ++ log) = endedFrames log := by
  rw [endedFrames, List.filterMap_append, List.filterMap_eq_nil_iff.mpr hNew]
  rfl

/-- How many reactions are to be added to the responses of frames. -/
def reactionCount (frames : List Frame) : Nat := (frames.map (·.reactions.length)).sum

/-- The reactions of the current frame and of those that have ended. -/
def Measure.allReactions : Measure :=
  ⟨fun s => reactionCount (s.frame :: endedFrames s.log), fun _ _ _ _ => rfl⟩

/-- What pays for the reactions of responses. -/
def reactionDemand : Demand := .calls "add_reaction_response" maxReactions

theorem pays_response_reaction (emoji : String) : Pays .allReactions reactionDemand 1
    (editFrame fun f => { f with reactions := f.reactions ++ [emoji] }) := by
  intro env s
  show reactionCount ({ s.frame with reactions := s.frame.reactions ++ [emoji] } ::
      endedFrames s.log) + granted reactionDemand s.log ≤
    reactionCount (s.frame :: endedFrames s.log) + granted reactionDemand s.log + 1
  simp only [reactionCount, List.map_cons, List.sum_cons, List.length_append,
    List.length_singleton]
  omega

/-! ### What functions and nested calls keep -/

/-- A session and a later one in the same frame, where the frame has kept its bounds, deletions were
asked for in time, and reactions were paid for. -/
structure KeepsIntents (env : Environment) (s after : Session) : Prop where
  bounded : s.frame.Bounded env.limits → after.frame.Bounded env.limits
  prompt : Prompt env s.log → Prompt env after.log
  paid : Measure.allReactions.value after + granted reactionDemand s.log ≤
    Measure.allReactions.value s + granted reactionDemand after.log

/-- Whether an event neither ends a body nor asks for a deletion. -/
def Event.isQuiet : Event → Bool
  | .called c _ => !c.isScheduledDeletion
  | .ended _ => false
  | _ => true

theorem Event.isCall_of_isQuiet {e : Event} (h : e.isQuiet = true) :
    e.isCall Call.isScheduledDeletion = false := by
  cases e with
  | called c succeeded => simpa [isQuiet, isCall] using h
  | demanded _ _ | slept _ | began _ | ended _ => rfl

theorem Event.ended?_of_isQuiet {e : Event} (h : e.isQuiet = true) : e.ended? = none := by
  cases e with
  | ended f => exact nomatch h
  | demanded _ _ | slept _ | called _ _ | began _ => rfl

section Quiet

variable {env : Environment} {log new : List Event} (hNew : ∀ e ∈ new, e.isQuiet = true)
include hNew

theorem endedFrames_append_of_quiet (log : List Event) :
    endedFrames (new ++ log) = endedFrames log :=
  endedFrames_append_of_none (fun e he => e.ended?_of_isQuiet (hNew e he)) log

theorem Prompt.append_of_quiet (h : Prompt env log) : Prompt env (new ++ log) :=
  h.append fun e he => e.isCall_of_isQuiet (hNew e he)

end Quiet

section KeepsIntents

variable {env : Environment} {s s1 s2 s3 after : Session} {new : List Event}

theorem KeepsIntents.refl (env : Environment) (s : Session) : KeepsIntents env s s :=
  ⟨id, id, Nat.le_refl _⟩

theorem KeepsIntents.trans (h1 : KeepsIntents env s1 s2) (h2 : KeepsIntents env s2 s3) :
    KeepsIntents env s1 s3 := by
  refine ⟨h2.bounded ∘ h1.bounded, h2.prompt ∘ h1.prompt, ?_⟩
  have hFirst := h1.paid
  have hSecond := h2.paid
  omega

/-- Without a reaction more, and without a body's end, nothing has to be paid for. -/
theorem paid_of_unended (hLog : after.log = new ++ s.log) (hNew : ∀ e ∈ new, e.ended? = none)
    (hReactions : after.frame.reactions = s.frame.reactions) :
    Measure.allReactions.value after + granted reactionDemand s.log ≤
      Measure.allReactions.value s + granted reactionDemand after.log := by
  have hEnded : endedFrames after.log = endedFrames s.log := by
    rw [hLog]
    exact endedFrames_append_of_none hNew s.log
  simp only [Measure.allReactions, reactionCount, List.map_cons, List.sum_cons, hReactions, hEnded]
  rw [hLog, granted_append]
  omega

theorem KeepsIntents.of_quiet (hLog : after.log = new ++ s.log) (hNew : ∀ e ∈ new, e.isQuiet = true)
    (hBounded : s.frame.Bounded env.limits → after.frame.Bounded env.limits)
    (hReactions : after.frame.reactions = s.frame.reactions) : KeepsIntents env s after := by
  refine ⟨hBounded, fun h => ?_,
    paid_of_unended hLog (fun e he => e.ended?_of_isQuiet (hNew e he)) hReactions⟩
  rw [hLog]
  exact h.append_of_quiet hNew

end KeepsIntents

theorem Builtin.not_scheduling {b : Builtin} {arguments : List Value} {c : Call}
    (hMessage : b ≠ .deleteMessage) (hTrigger : b ≠ .deleteTrigger)
    (h : (b.powers arguments).calls c) : c.isScheduledDeletion = false := by
  cases b with
  | deleteMessage => exact absurd rfl hMessage
  | deleteTrigger => exact absurd rfl hTrigger
  | addMessageReactions | addReactions | hasPermissions | editMessage =>
    obtain ⟨_, _, _, rfl⟩ := h
    rfl
  | sendMessage =>
    obtain ⟨_, _, rfl⟩ := h
    rfl
  | deleteMessageReaction =>
    obtain ⟨_, _, _, _, rfl⟩ := h
    rfl
  | giveRoleID | takeRoleID =>
    obtain ⟨_, _, _, rfl⟩ | ⟨_, _, _, _, rfl⟩ := h
    · rfl
    · rfl
  | setRoles =>
    obtain ⟨_, _, _, rfl | rfl⟩ := h
    · rfl
    · rfl
  | _ => exact absurd h id

section Functions

variable (engine : Engine) {b : Builtin} (hOwn : b.runsTemplate = false) (arguments : List Value)
  (env : Environment)
include hOwn

theorem Builtin.run_bounded (s : Session) (h : s.frame.Bounded env.limits) :
    ((b.run engine arguments).perform env s).2.frame.Bounded env.limits := by
  by_cases hResponse : b = .deleteResponse
  · subst hResponse
    exact deleteResponse_bounded arguments env h
  by_cases hRole : b = .mentionRoleID
  · subst hRole
    exact mentionRole_bounded arguments env h
  · obtain ⟨new, hLeave⟩ := (b.confined_of_own engine hOwn arguments).leaves env s
    have hKeeps : b.KeepsFrame s.frame _ := .of_edits hLeave.frame
    exact h.of_same (hKeeps.deletion hResponse) (hKeeps.roles hRole)

theorem Builtin.run_promptly : Promptly env (b.run engine arguments) := by
  by_cases hMessage : b = .deleteMessage
  · subst hMessage
    exact deleteMessage_promptly arguments
  by_cases hTrigger : b = .deleteTrigger
  · subst hTrigger
    exact deleteTrigger_promptly arguments
  · exact promptly_of_confined (b.confined_of_own engine hOwn arguments) fun _ =>
      b.not_scheduling hMessage hTrigger

theorem Builtin.run_pays (s : Session) :
    let after := ((b.run engine arguments).perform env s).2
    Measure.allReactions.value after + granted reactionDemand s.log ≤
      Measure.allReactions.value s + granted reactionDemand after.log := by
  intro after
  by_cases hReactions : b = .addResponseReactions
  · subst hReactions
    have hPays : Pays .allReactions reactionDemand 0
        (Script.addResponseReactions arguments) :=
      eachReaction_pays pays_response_reaction
    exact hPays env s
  · obtain ⟨new, hLeave⟩ := (b.confined_of_own engine hOwn arguments).leaves env s
    have hKeeps : b.KeepsFrame s.frame after.frame := .of_edits hLeave.frame
    refine paid_of_unended hLeave.log (fun e he => ?_) (hKeeps.reactions hReactions)
    cases e with
    | ended f => exact absurd (hLeave.allowed _ he) id
    | demanded _ _ | slept _ | called _ _ | began _ => rfl

theorem Builtin.run_keepsIntents (s : Session) :
    KeepsIntents env s ((b.run engine arguments).perform env s).2 :=
  ⟨run_bounded engine hOwn arguments env s, run_promptly engine hOwn arguments env s,
    run_pays engine hOwn arguments env s⟩

end Functions

end BotScript
