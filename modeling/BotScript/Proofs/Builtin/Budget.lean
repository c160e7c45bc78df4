import BotScript.Proofs.Builtin.Powers
import BotScript.Proofs.Nested

/-! The rule that functions charge a budget before they change anything on the platform, and that a
refused function has changed nothing.  `Budgeted` is the rule for what happened in one call, and
`Builtin.budgeted_iff` says when a function keeps it: always, but for the two exceptions that it
names. -/

namespace BotScript

open Script

/-! ### The rule -/

/-- Whether a call changes something on the platform, now or later. -/
def Call.isEffect : Call → Bool
  | .openDirect _ | .permissions .. => false
  | _ => true

/-- Whether an event is a call that changes something. -/
def Event.isEffect : Event → Bool
  | .called c _ => c.isEffect
  | _ => false

/-- Whether a demand is counted under a key. -/
def Demand.isKeyed : Demand → Bool
  | .sleep _ => false
  | _ => true

/-- Every effect in what happened, the latest first, comes after a keyed demand that was granted. -/
def Covered : List Event → Prop
  | [] => True
  | e :: earlier =>
    (∀ c succeeded, e = .called c succeeded → c.isEffect = true →
      ∃ d, d.isKeyed = true ∧ .demanded d true ∈ earlier) ∧ Covered earlier

/-- A script that ended because a budget was exhausted, and not because the platform said so. -/
def Refused {α : Type} (r : Except Fault α) (new : List Event) : Prop :=
  (∃ budget, r = .error (.exhausted budget)) ∧ ∀ c, .called c false ∉ new

/-- Nothing was changed on the platform, nor in the frame. -/
def Clean (s after : Session) (new : List Event) : Prop :=
  (∀ c succeeded, .called c succeeded ∈ new → c.isEffect = false) ∧ after.frame = s.frame

/-- The rule for a script that started in `s` and ended in `after`: what it changed was charged
before, and if it was refused it changed nothing. -/
def Budgeted {α : Type} (s : Session) (r : Except Fault α) (after : Session) (new : List Event) :
    Prop :=
  Covered new ∧ (Refused r new → Clean s after new)

/-! ### Charges come first -/

theorem covered_of_no_effect {new : List Event}
    (h : ∀ c succeeded, .called c succeeded ∈ new → c.isEffect = false) : Covered new := by
  induction new with
  | nil => trivial
  | cons e earlier ih =>
    refine ⟨fun c succeeded he hEffect => ?_, ih fun c succeeded hc =>
      h c succeeded (List.mem_cons_of_mem _ hc)⟩
    rw [h c succeeded (by simp [he])] at hEffect
    exact absurd hEffect Bool.false_ne_true

/-- Without demands only what has no effect is covered. -/
theorem covered_iff_of_no_demand {new : List Event}
    (h : ∀ d granted, .demanded d granted ∉ new) :
    Covered new ↔ ∀ c succeeded, .called c succeeded ∈ new → c.isEffect = false := by
  refine ⟨fun hCovered => ?_, covered_of_no_effect⟩
  induction new with
  | nil => simp
  | cons e earlier ih =>
    intro c succeeded hc
    have hEarlier : ∀ d granted, .demanded d granted ∉ earlier :=
      fun d granted hd => h d granted (List.mem_cons_of_mem _ hd)
    rcases List.mem_cons.mp hc with hHead | hTail
    · refine Bool.eq_false_iff.mpr fun hEffect => ?_
      obtain ⟨d, -, hd⟩ := hCovered.1 c succeeded hHead.symm hEffect
      exact hEarlier d true hd
    · exact ih hEarlier hCovered.2 c succeeded hTail

/-- Once a keyed demand is granted all that follows is covered. -/
theorem covered_after_demand {d : Demand} (hKeyed : d.isKeyed = true) (new : List Event) :
    Covered (new ++ [.demanded d true]) := by
  induction new with
  | nil => exact ⟨fun c succeeded he => (nomatch he), trivial⟩
  | cons e earlier ih =>
    exact ⟨fun c succeeded _ _ => ⟨d, hKeyed, by simp⟩, ih⟩

theorem Covered.append {later earlier : List Event} (hLater : Covered later)
    (hEarlier : Covered earlier) : Covered (later ++ earlier) := by
  induction later with
  | nil => exact hEarlier
  | cons e rest ih =>
    refine ⟨fun c succeeded he hEffect => ?_, ih hLater.2⟩
    obtain ⟨d, hKeyed, hd⟩ := hLater.1 c succeeded he hEffect
    exact ⟨d, hKeyed, List.mem_append_left _ hd⟩

/-! ### Scripts that keep the rule -/

/-- The rule for what a script that started in `s` gave and left, but that its changes need not be
charged if `charged` says that they were before. -/
def Kept (charged : Bool) {α : Type} (s : Session) (result : Except Fault α × Session) : Prop :=
  ∃ new, result.2.log = new ++ s.log ∧ (charged = true ∨ Covered new) ∧
    (Refused result.1 new → Clean s result.2 new)

/-- A script that keeps the rule wherever it starts. -/
def Keeps (charged : Bool) {α : Type} (x : Script α) : Prop :=
  ∀ env s, Kept charged s (x.perform env s)

section Keeps

variable {p : Powers} {charged : Bool} {α β : Type} {x : Script α} {f : α → Script β}

/-- No budget of its own is exhausted for a script that makes no demands and compiles nothing. -/
theorem not_refused {s after : Session} {r : Except Fault α} {new : List Event}
    (h : p.Leave s r after new) (hDemands : ∀ d, ¬p.demands d)
    (hPatterns : ∀ source, ¬p.patterns source) : ¬Refused r new := by
  rintro ⟨⟨budget, hr⟩, hCalls⟩
  rcases h.cause budget hr with ⟨d, hd⟩ | ⟨c, hc⟩ | ⟨source, hSource⟩
  · exact hDemands d (h.allowed _ hd)
  · exact hCalls c hc
  · exact hPatterns source hSource

/-- A script keeps the rule if it changes nothing, neither on the platform nor in the frame. -/
theorem keeps_of_still (hx : Confined p x) (hCalls : ∀ c, p.calls c → c.isEffect = false)
    (hEdits : ∀ f g, ¬p.edits f g) : Keeps charged x := by
  intro env s
  obtain ⟨new, h⟩ := hx.leaves env s
  have hNone : ∀ c succeeded, .called c succeeded ∈ new → c.isEffect = false :=
    fun c succeeded hc => hCalls c (h.allowed _ hc)
  exact ⟨new, h.log, .inr (covered_of_no_effect hNone), fun _ => ⟨hNone, h.frame_eq hEdits⟩⟩

/-- A script keeps the rule if nothing can refuse it and what it changes is charged before. -/
theorem keeps_of_charged (hx : Confined p x) (hDemands : ∀ d, ¬p.demands d)
    (hPatterns : ∀ source, ¬p.patterns source)
    (hCalls : charged = true ∨ ∀ c, p.calls c → c.isEffect = false) : Keeps charged x := by
  intro env s
  obtain ⟨new, h⟩ := hx.leaves env s
  refine ⟨new, h.log, ?_, fun hRefused => absurd hRefused (not_refused h hDemands hPatterns)⟩
  rcases hCalls with hCharged | hCalls
  · exact .inl hCharged
  · exact .inr (covered_of_no_effect fun c succeeded hc => hCalls c (h.allowed _ hc))

/-- A script that only looks leaves the session as it is, and no fault of its own is an exhausted
budget. -/
theorem perform_looking (hx : Confined .none x) (env : Environment) (s : Session) :
    (x.perform env s).2 = s ∧
      ∀ fault, (x.perform env s).1 = .error fault → fault.isExhausted = false := by
  obtain ⟨new, h⟩ := hx.leaves env s
  have hNone : ∀ e, e ∉ new := by
    intro e he
    have hAllowed := h.allowed e he
    cases e with
    | slept n =>
      obtain ⟨_, hDemand, _⟩ := hAllowed
      exact hDemand
    | demanded _ _ | called _ _ | began _ | ended _ => exact hAllowed
  obtain rfl : new = [] := List.eq_nil_iff_forall_not_mem.mpr hNone
  refine ⟨Powers.Leave.eq_of_asking h, fun fault hFault => ?_⟩
  cases fault with
  | exhausted budget =>
    rcases h.cause budget hFault with ⟨d, hd⟩ | ⟨c, hc⟩ | ⟨source, hSource⟩
    · exact absurd hd (hNone _)
    · exact absurd hc (hNone _)
    · exact absurd hSource id
  | _ => rfl

/-- What is true of a fault that is no exhausted budget, and of the rest of a script, is true of the
script if its first part only looks. -/
theorem looking_bind {env : Environment} {s : Session} {Q : Except Fault β × Session → Prop}
    (hx : Confined .none x)
    (hFault : ∀ fault, fault.isExhausted = false → Q (.error fault, s))
    (hf : ∀ a, Q ((f a).perform env s)) : Q ((x >>= f).perform env s) := by
  obtain ⟨hSame, hOwn⟩ := perform_looking hx env s
  rw [perform_bind]
  rcases hPerform : x.perform env s with ⟨fault | a, after⟩
  · rw [hPerform] at hSame hOwn
    obtain rfl : after = s := hSame
    exact hFault fault (hOwn fault rfl)
  · rw [hPerform] at hSame
    obtain rfl : after = s := hSame
    exact hf a

theorem not_refused_of_fault {fault : Fault} (h : fault.isExhausted = false) (new : List Event) :
    ¬Refused (.error fault : Except Fault α) new := by
  rintro ⟨⟨budget, hBudget⟩, -⟩
  cases hBudget
  exact nomatch h

theorem keeps_looking_bind (hx : Confined .none x) (hf : ∀ a, Keeps charged (f a)) :
    Keeps charged (x >>= f) := by
  intro env s
  refine looking_bind (Q := Kept charged s) hx (fun fault hFault => ?_) fun a => hf a env s
  exact ⟨[], rfl, .inr trivial, fun hRefused => absurd hRefused (not_refused_of_fault hFault [])⟩

/-- A script keeps the rule if it charges a key first and then does what needs to be charged. -/
theorem keeps_demand_bind {d : Demand} {g : Unit → Script β} (hKeyed : d.isKeyed = true)
    (hg : Keeps true (g ())) : Keeps charged (demand d >>= g) := by
  intro env s
  rw [perform_bind, perform_demand]
  rcases hEnsure : s.ledger.ensure d with ⟨fault | _, ledger⟩
  · refine ⟨[.demanded d false], rfl, .inr (covered_of_no_effect (by simp)), fun _ => ?_⟩
    exact ⟨by simp, rfl⟩
  · obtain ⟨new, hLog, -, hRefused⟩ :=
      hg env { s with ledger := ledger, log := .demanded d true :: s.log }
    refine ⟨new ++ [.demanded d true], ?_, .inr (covered_after_demand hKeyed new), fun h => ?_⟩
    · rw [List.append_assoc]
      exact hLog
    · obtain ⟨hEffect, hFrame⟩ := hRefused ⟨h.1, fun c hc => h.2 c (List.mem_append_left _ hc)⟩
      refine ⟨fun c succeeded hc => ?_, hFrame⟩
      rcases List.mem_append.mp hc with hc | hc
      · exact hEffect c succeeded hc
      · simp at hc

/-- A script that charges first keeps the rule, if what it charges is a key. -/
theorem Script.Charging.keeps {demands : Demand → Prop} {calls : Call → Prop}
    (h : Charging demands calls charged x) (hKeyed : ∀ d, demands d → d.isKeyed = true) :
    Keeps charged x := by
  induction h with
  | asking hx => exact keeps_of_charged hx (fun _ => id) (fun _ => id) (.inl rfl)
  | looking hx _ ih => exact keeps_looking_bind hx ih
  | demand hd _ ih => exact keeps_demand_bind (hKeyed _ hd) ih

end Keeps

/-! ### Reactions -/

/-- The key under which a function that deals with reactions counts them. -/
def Builtin.reactionKey? : Builtin → Option String
  | addMessageReactions => some "add_reaction_message"
  | addReactions => some "add_reaction_trigger"
  | addResponseReactions => some "add_reaction_response"
  | deleteMessageReaction => some "del_reaction_message"
  | _ => none

/-- How much has been changed: effects on the platform, and reactions to the response. -/
def changes (s : Session) : Nat := s.log.countP Event.isEffect + s.frame.reactions.length

theorem Clean.changes_eq {s after : Session} {new : List Event} (h : Clean s after new)
    (hLog : after.log = new ++ s.log) : changes after = changes s := by
  obtain ⟨hEffect, hFrame⟩ := h
  have hNew : new.countP Event.isEffect = 0 := by
    refine List.countP_eq_zero.mpr fun e he => ?_
    cases e with
    | called c succeeded => simp [Event.isEffect, hEffect c succeeded he]
    | demanded _ _ | slept _ | began _ | ended _ => exact Bool.false_ne_true
  rw [changes, changes, hLog, hFrame, List.countP_append, hNew, Nat.zero_add]

/-- The rule for what a function that deals with reactions gave and left: it is kept if and only if
the function was not refused, or as many reactions as there may be had been counted before. -/
def KeptWhenFull (key : String) (s : Session) (result : Except Fault Value × Session) : Prop :=
  ∃ new, result.2.log = new ++ s.log ∧ (Budgeted s result.1 result.2 new ↔
    (Refused result.1 new → maxReactions ≤ s.ledger.count key))

/-- One step of a loop over reactions. -/
def reactionStep (key : String) (act : String → Script Unit) (emoji : String) : Script Unit := do
  demand (.calls key maxReactions)
  act emoji

section Reactions

variable (key : String) (act : String → Script Unit) (env : Environment)

/-- Counting a reaction changes nothing.  It is refused if as many as there may be have been counted
before. -/
theorem perform_demand_reaction (s : Session) :
    (demand (.calls key maxReactions)).perform env s =
      (if maxReactions ≤ s.ledger.count key then .error (.exhausted .calls) else .ok (),
        { s with
          ledger := s.ledger.charge key
          log := .demanded (.calls key maxReactions)
            (!decide (maxReactions ≤ s.ledger.count key)) :: s.log }) := by
  have hCount : maxReactions < (s.ledger.charge key).count key ↔
      maxReactions ≤ s.ledger.count key := by
    rw [Ledger.count_charge_self]
    show 20 < min 0xFFFFFFFF _ ↔ 20 ≤ _
    omega
  have hEnsure := Ledger.ensure_calls s.ledger key maxReactions
  by_cases h : maxReactions ≤ s.ledger.count key
  · rw [if_pos (hCount.mpr h)] at hEnsure
    rw [perform_demand, hEnsure, if_pos h, decide_eq_true h]
    rfl
  · rw [if_neg fun hLt => h (hCount.mp hLt)] at hEnsure
    rw [perform_demand, hEnsure, if_neg h, decide_eq_false h]
    rfl

/-- A loop over reactions undoes nothing of its first step if the rest of it undoes nothing. -/
theorem changes_first_le (emoji : String) {rest : List String}
    (hRest : ∀ s, changes s ≤ changes ((rest.forM (reactionStep key act)).perform env s).2)
    (s : Session) :
    changes ((reactionStep key act emoji).perform env s).2 ≤
      changes (((emoji :: rest).forM (reactionStep key act)).perform env s).2 := by
  show _ ≤ changes ((reactionStep key act emoji >>= fun _ =>
    rest.forM (reactionStep key act)).perform env s).2
  rw [perform_bind]
  rcases (reactionStep key act emoji).perform env s with ⟨fault | _, after⟩
  · exact Nat.le_refl _
  · exact hRest after

section Changes

variable (hAct : ∀ emoji s, changes ((act emoji).perform env s).2 = changes s + 1)

include hAct

/-- One step of a loop over reactions changes one thing, unless it is refused. -/
theorem changes_reactionStep (emoji : String) (s : Session) :
    changes ((reactionStep key act emoji).perform env s).2 =
      if maxReactions ≤ s.ledger.count key then changes s else changes s + 1 := by
  have hSame : ∀ ledger granted, changes { s with
      ledger := ledger
      log := .demanded (.calls key maxReactions) granted :: s.log } = changes s := by
    intro ledger granted
    simp [changes, Event.isEffect]
  rw [reactionStep, perform_bind, perform_demand_reaction]
  by_cases h : maxReactions ≤ s.ledger.count key
  · rw [if_pos h, if_pos h]
    exact hSame _ _
  · rw [if_neg h, if_neg h]
    simp only
    rw [hAct, hSame]

theorem le_changes_forM (emojis : List String) (s : Session) :
    changes s ≤ changes ((emojis.forM (reactionStep key act)).perform env s).2 := by
  induction emojis generalizing s with
  | nil => exact Nat.le_refl _
  | cons emoji rest ih =>
    have hFirst := changes_reactionStep key act env hAct emoji s
    have hRest := changes_first_le key act env emoji ih s
    split at hFirst <;> omega

/-- If fewer reactions than there may be were counted before, the first of them changes
something. -/
theorem lt_changes_eachReaction (emoji : String) (rest : List String) {s : Session}
    (h : s.ledger.count key < maxReactions) :
    changes s < changes ((eachReaction key (emoji :: rest) act).perform env s).2 := by
  have hStep := changes_reactionStep key act env hAct emoji s
  have hFirst := changes_first_le key act env emoji (le_changes_forM key act env hAct rest) s
  have hLoop : ((eachReaction key (emoji :: rest) act).perform env s).2 =
      (((emoji :: rest).forM (reactionStep key act)).perform env s).2 := by
    show (((emoji :: rest).forM (reactionStep key act) >>= fun _ => pure done).perform env s).2 = _
    rw [perform_bind]
    rcases ((emoji :: rest).forM (reactionStep key act)).perform env s with ⟨_ | _, _⟩ <;> rfl
  rw [if_neg (Nat.not_le.mpr h)] at hStep
  rw [hLoop]
  omega

end Changes

theorem covered_bind {α β : Type} {x : Script α} {f : α → Script β} {s : Session}
    (hx : ∃ new, (x.perform env s).2.log = new ++ s.log ∧ Covered new)
    (hf : ∀ a s, ∃ new, ((f a).perform env s).2.log = new ++ s.log ∧ Covered new) :
    ∃ new, ((x >>= f).perform env s).2.log = new ++ s.log ∧ Covered new := by
  refine perform_bind_trans
    (R := fun s after => ∃ new, after.log = new ++ s.log ∧ Covered new) ?_ hx hf
  rintro s1 s2 s3 ⟨earlier, hEarlier, hCovered⟩ ⟨later, hLater, hCoveredLater⟩
  refine ⟨later ++ earlier, ?_, hCoveredLater.append hCovered⟩
  rw [hLater, hEarlier, List.append_assoc]

/-- A loop over reactions charges each of them before it does anything with it. -/
theorem covered_forM (hKeeps : ∀ emoji, Keeps true (act emoji)) (emojis : List String)
    (s : Session) :
    ∃ new, ((emojis.forM (reactionStep key act)).perform env s).2.log = new ++ s.log ∧
      Covered new := by
  induction emojis generalizing s with
  | nil => exact ⟨[], rfl, trivial⟩
  | cons emoji rest ih =>
    have hStep : Keeps false (reactionStep key act emoji) := keeps_demand_bind rfl (hKeeps emoji)
    obtain ⟨new, hLog, hCovered, -⟩ := hStep env s
    exact covered_bind env ⟨new, hLog, hCovered.resolve_left Bool.false_ne_true⟩ fun _ => ih

/-- If as many reactions as there may be were counted before, the first of them is refused. -/
theorem perform_eachReaction_of_full (emoji : String) (rest : List String) {s : Session}
    (h : maxReactions ≤ s.ledger.count key) :
    (eachReaction key (emoji :: rest) act).perform env s = (.error (.exhausted .calls),
      { s with
        ledger := s.ledger.charge key
        log := .demanded (.calls key maxReactions) false :: s.log }) := by
  show ((reactionStep key act emoji >>= fun _ => rest.forM (reactionStep key act)) >>=
    fun _ => pure done).perform env s = _
  rw [perform_bind, perform_bind, reactionStep, perform_bind, perform_demand_reaction, if_pos h,
    decide_eq_true h]
  rfl

/-- A loop over reactions charges each of them.  If it is refused it has changed nothing if and only
if as many reactions as there may be had been counted before. -/
theorem eachReaction_keptWhenFull (hKeeps : ∀ emoji, Keeps true (act emoji))
    (hAct : ∀ emoji s, changes ((act emoji).perform env s).2 = changes s + 1)
    (emojis : List String) (s : Session) :
    KeptWhenFull key s ((eachReaction key emojis act).perform env s) := by
  let result := (eachReaction key emojis act).perform env s
  obtain ⟨new, hLog, hCovered⟩ := covered_bind env (covered_forM key act env hKeeps emojis s)
    (f := fun _ => (pure done : Script Value)) fun _ _ => ⟨[], rfl, trivial⟩
  have hClean : Refused result.1 new →
      (Clean s result.2 new ↔ maxReactions ≤ s.ledger.count key) := by
    cases emojis with
    | nil =>
      rintro ⟨⟨budget, hBudget⟩, -⟩
      cases hBudget
    | cons emoji rest =>
      intro _
      by_cases h : maxReactions ≤ s.ledger.count key
      · have hFull : result = _ := perform_eachReaction_of_full key act env emoji rest h
        have hNew : new = [.demanded (.calls key maxReactions) false] := by
          refine (List.append_left_inj s.log).mp (hLog.symm.trans ?_)
          show result.2.log = _
          rw [hFull]
          rfl
        refine ⟨fun _ => h, fun _ => ⟨by simp [hNew], ?_⟩⟩
        rw [hFull]
      · have hLt := lt_changes_eachReaction key act env hAct emoji rest (Nat.lt_of_not_le h)
        refine ⟨fun hClean => ?_, fun hLe => absurd hLe h⟩
        rw [hClean.changes_eq hLog] at hLt
        exact absurd hLt (Nat.lt_irrefl _)
  exact ⟨new, hLog, fun hBudgeted hRefused => (hClean hRefused).mp (hBudgeted.2 hRefused),
    fun h => ⟨hCovered, fun hRefused => (hClean hRefused).mpr (h hRefused)⟩⟩

end Reactions

/-! ### The functions -/

/-- All functions but those that run nested templates, delete the triggering message or deal with
reactions keep the rule. -/
theorem Builtin.keeps (engine : Engine) {b : Builtin} (hTemplate : b ≠ .sendTemplate)
    (hTemplateDM : b ≠ .sendTemplateDM) (hTrigger : b ≠ .deleteTrigger)
    (hReaction : b.reactionKey? = none) (arguments : List Value) :
    Keeps false (b.run engine arguments) := by
  have hConfined := b.run_confined engine hTemplate hTemplateDM arguments
  cases b with
  | sendTemplate => exact absurd rfl hTemplate
  | sendTemplateDM => exact absurd rfl hTemplateDM
  | deleteTrigger => exact absurd rfl hTrigger
  | addMessageReactions | addReactions | addResponseReactions | deleteMessageReaction =>
    exact nomatch hReaction
  | sendMessage => exact (sendMessage_charging arguments).keeps fun d hd => by rw [hd]; rfl
  | editMessage => exact (editMessage_charging arguments).keeps fun d hd => by rw [hd]; rfl
  | deleteMessage => exact (deleteMessage_charging arguments).keeps fun d hd => by rw [hd]; rfl
  | giveRoleID => exact (giveRole_charging arguments).keeps fun d hd => by rw [hd]; rfl
  | takeRoleID => exact (takeRole_charging arguments).keeps fun d hd => by rw [hd]; rfl
  | setRoles =>
    refine (setRoles_charging arguments).keeps fun d hd => ?_
    rcases hd with rfl | ⟨user, rfl⟩ <;> rfl
  | deleteResponse | mentionEveryone | mentionHere | mentionRoleID =>
    exact keeps_of_charged hConfined (fun _ => id) (fun _ => id) (.inr fun _ => False.elim)
  | hasPermissions =>
    refine keeps_of_still hConfined (fun c hc => ?_) fun _ _ => id
    obtain ⟨guild, channel, user, rfl⟩ := hc
    rfl
  | _ => exact keeps_of_still hConfined (fun _ => False.elim) fun _ _ => id

theorem keeps_call (c : Call) : Keeps true (call c) := by
  have hConfined : Confined (.asking fun _ => True) (call c) := .call trivial
  exact keeps_of_charged hConfined (fun _ => id) (fun _ => id) (.inl rfl)

theorem changes_call {c : Call} (h : c.isEffect = true) (env : Environment) (s : Session) :
    changes ((call c).perform env s).2 = changes s + 1 := by
  have hCount : (.called c (env.host.answer s.log c).toBool :: s.log).countP Event.isEffect =
      s.log.countP Event.isEffect + 1 := List.countP_cons_of_pos h
  rw [perform_call, changes, changes]
  simp only [hCount]
  omega

theorem KeptWhenFull.of_looking {key : String} {α : Type} {x : Script α} {f : α → Script Value}
    {env : Environment} {s : Session} (hx : Confined .none x)
    (hf : ∀ a, KeptWhenFull key s ((f a).perform env s)) :
    KeptWhenFull key s ((x >>= f).perform env s) := by
  refine looking_bind hx (fun fault hFault => ?_) hf
  have hNot : ¬Refused (.error fault : Except Fault Value) [] := not_refused_of_fault hFault []
  exact ⟨[], rfl, fun _ hRefused => absurd hRefused hNot,
    fun _ => ⟨trivial, fun hRefused => absurd hRefused hNot⟩⟩

/-- The functions that deal with reactions keep the rule unless they are refused after the first of
their reactions. -/
theorem Builtin.keptWhenFull (engine : Engine) {b : Builtin} {key : String}
    (hKey : b.reactionKey? = some key) (arguments : List Value) (env : Environment) (s : Session) :
    KeptWhenFull key s ((b.run engine arguments).perform env s) := by
  cases b with
  | addReactions =>
    cases hKey
    exact .of_looking triggerMessage_confined fun _ =>
      eachReaction_keptWhenFull _ _ env (fun _ => keeps_call _) (fun _ => changes_call rfl env) _ s
  | addMessageReactions =>
    cases hKey
    exact .of_looking (.orMistake _) fun _ => .of_looking (channelOf_confined _) fun _ =>
      .of_looking (.orMistake _) fun _ =>
      eachReaction_keptWhenFull _ _ env (fun _ => keeps_call _) (fun _ => changes_call rfl env) _ s
  | deleteMessageReaction =>
    cases hKey
    exact .of_looking (.orMistake _) fun _ => .of_looking (channelOf_confined _) fun _ =>
      .of_looking (.orMistake _) fun _ => .of_looking (.orMistake _) fun _ =>
      eachReaction_keptWhenFull _ _ env (fun _ => keeps_call _) (fun _ => changes_call rfl env) _ s
  | addResponseReactions =>
    cases hKey
    refine eachReaction_keptWhenFull _ _ env (fun emoji => ?_) (fun emoji s => ?_) _ s
    · have hConfined : Confined { Powers.none with edits := fun _ _ => True }
          (editFrame fun f => { f with reactions := f.reactions ++ [emoji] }) :=
        .editFrame fun _ => trivial
      exact keeps_of_charged hConfined (fun _ => id) (fun _ => id) (.inl rfl)
    · show s.log.countP Event.isEffect + (s.frame.reactions ++ [emoji]).length = changes s + 1
      rw [List.length_append, changes]
      exact (Nat.add_assoc _ _ _).symm
  | _ => exact nomatch hKey

/-- Deleting the triggering message is charged to no budget, so that it breaks the rule whenever it
asks the platform. -/
theorem deleteTrigger_budgeted (arguments : List Value) (env : Environment) (s : Session) :
    ∃ new, ((deleteTrigger arguments).perform env s).2.log = new ++ s.log ∧
      (Budgeted s ((deleteTrigger arguments).perform env s).1
        ((deleteTrigger arguments).perform env s).2 new ↔
        ¬∃ c succeeded, .called c succeeded ∈ new) := by
  obtain ⟨new, h⟩ := (deleteTrigger_confined arguments).leaves env s
  have hNoDemand : ∀ d granted, .demanded d granted ∉ new := fun d granted hd => h.allowed _ hd
  have hRefused := not_refused h (fun _ => id) (fun _ => id)
  refine ⟨new, h.log, fun hBudgeted => ?_, fun hNone => ⟨?_, fun hR => absurd hR hRefused⟩⟩
  · rintro ⟨c, succeeded, hc⟩
    have hEffect := (covered_iff_of_no_demand hNoDemand).mp hBudgeted.1 c succeeded hc
    obtain ⟨guild, channel, message, due, rfl⟩ := h.allowed _ hc
    exact nomatch hEffect
  · exact covered_of_no_effect fun c succeeded hc => absurd ⟨c, succeeded, hc⟩ hNone

/-- A function charges a key before each of its effects, and has changed nothing when it is refused,
but for two exceptions: it deletes the triggering message, which is charged to no key, or it deals
with reactions and is refused after the first of them. -/
theorem Builtin.budgeted_iff (engine : Engine) {b : Builtin} (hTemplate : b ≠ .sendTemplate)
    (hTemplateDM : b ≠ .sendTemplateDM) (arguments : List Value) (env : Environment)
    (s : Session) :
    let result := (b.run engine arguments).perform env s
    ∃ new, result.2.log = new ++ s.log ∧ (Budgeted s result.1 result.2 new ↔
      ¬(b = .deleteTrigger ∧ ∃ c succeeded, .called c succeeded ∈ new) ∧
      ∀ key, b.reactionKey? = some key → Refused result.1 new →
        maxReactions ≤ s.ledger.count key) := by
  intro result
  by_cases hTrigger : b = .deleteTrigger
  · subst hTrigger
    obtain ⟨new, hLog, hIff⟩ := deleteTrigger_budgeted arguments env s
    refine ⟨new, hLog, hIff.trans ⟨fun hNone => ⟨fun h => hNone h.2, fun _ hKey => nomatch hKey⟩,
      fun h hCalled => h.1 ⟨rfl, hCalled⟩⟩⟩
  rcases hReaction : b.reactionKey? with _ | key
  · obtain ⟨new, hLog, hCovered, hClean⟩ :=
      b.keeps engine hTemplate hTemplateDM hTrigger hReaction arguments env s
    have hBudgeted : Budgeted s result.1 result.2 new :=
      ⟨hCovered.resolve_left Bool.false_ne_true, hClean⟩
    exact ⟨new, hLog, fun _ => ⟨fun h => hTrigger h.1, fun _ hKey => nomatch hKey⟩,
      fun _ => hBudgeted⟩
  · obtain ⟨new, hLog, hIff⟩ := b.keptWhenFull engine hReaction arguments env s
    refine ⟨new, hLog, hIff.trans ⟨fun h => ⟨fun hBoth => hTrigger hBoth.1, ?_⟩,
      fun h => h.2 key rfl⟩⟩
    intro other hOther
    cases hOther
    exact h

/-- Sending a message in an execution that has charged nothing yet. -/
theorem sendMessage_budgeted_at_start :
    let result := (Builtin.sendMessage.run (fun _ => pure "") [.null, .text "hello"]).perform
      sampleEnvironment sampleEnvironment.start
    Builtin.sendMessage ≠ .sendTemplate ∧ Builtin.sendMessage ≠ .sendTemplateDM ∧
      ∃ new, result.2.log = new ++ sampleEnvironment.start.log ∧
        Budgeted sampleEnvironment.start result.1 result.2 new := by
  have hTemplate : Builtin.sendMessage ≠ .sendTemplate := by decide
  have hTemplateDM : Builtin.sendMessage ≠ .sendTemplateDM := by decide
  obtain ⟨new, hLog, hIff⟩ := Builtin.budgeted_iff (fun _ => pure "") hTemplate hTemplateDM
    [.null, .text "hello"] sampleEnvironment sampleEnvironment.start
  refine ⟨hTemplate, hTemplateDM, new, hLog, hIff.mpr ⟨fun h => ?_, fun key hKey => ?_⟩⟩
  · exact nomatch h.1
  · exact nomatch hKey

/-- Deleting the triggering message asks the platform without having charged anything, and of 21
reactions 20 have been added when the last is refused. -/
theorem trigger_and_reactions_not_budgeted :
    let deleted := (Builtin.deleteTrigger.run (fun _ => pure "") []).perform
      sampleEnvironment sampleEnvironment.start
    let reacted := (Builtin.addReactions.run (fun _ => pure "")
      (List.replicate 21 (.text "e"))).perform sampleEnvironment sampleEnvironment.start
    (∃ new, deleted.2.log = new ++ sampleEnvironment.start.log ∧
      ¬Budgeted sampleEnvironment.start deleted.1 deleted.2 new) ∧
    ∃ new, reacted.2.log = new ++ sampleEnvironment.start.log ∧
      Refused reacted.1 new ∧ new.countP Event.isEffect = 20 ∧
      ¬Budgeted sampleEnvironment.start reacted.1 reacted.2 new := by
  intro deleted reacted
  have hLog : reacted.2.log = .demanded (.calls "add_reaction_trigger" maxReactions) false ::
      (List.replicate 20 [.called (.addReaction 10 5 "e") true,
        .demanded (.calls "add_reaction_trigger" maxReactions) true]).flatten := by decide +kernel
  have hFault : (match reacted.1 with
      | .error fault => fault.isExhausted
      | .ok _ => false) = true := by decide +kernel
  -- From here on the run is opaque: no step may compute it again.
  clear_value reacted
  have hAdded : reacted.2.log.countP Event.isEffect = 20 := by
    rw [hLog]
    decide
  have hRefused : Refused reacted.1 reacted.2.log := by
    refine ⟨?_, fun c hc => by simp [hLog] at hc⟩
    rcases hResult : reacted.1 with fault | v
    · rw [hResult] at hFault
      cases fault with
      | exhausted budget => exact ⟨budget, rfl⟩
      | _ => exact absurd hFault Bool.false_ne_true
    · rw [hResult] at hFault
      exact absurd hFault Bool.false_ne_true
  refine ⟨⟨[.called (.scheduleDeleteMessage 1 10 5 ⟨1767225610, 0⟩) true], rfl, ?_⟩,
    reacted.2.log, (List.append_nil _).symm, hRefused, hAdded, fun hBudgeted => ?_⟩
  · rintro ⟨hCovered, -⟩
    obtain ⟨d, -, hd⟩ := hCovered.1 _ _ rfl rfl
    exact absurd hd List.not_mem_nil
  · have hClean := hBudgeted.2 hRefused
    have hChanges := hClean.changes_eq (List.append_nil _).symm
    rw [changes, changes, hAdded, hClean.2] at hChanges
    have hStart : sampleEnvironment.start.log.countP Event.isEffect = 0 := rfl
    omega

end BotScript
