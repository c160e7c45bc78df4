import BotScript.Proofs.Acts
import BotScript.Proofs.Builtin.Spending
import Mathlib.Algebra.Order.BigOperators.Group.List
import Mathlib.Algebra.Order.Ring.Nat

/-! Budgets over whole runs.  Each function pays for what it causes by demands that are granted to
it, and no demand is granted more often in a run than its ceiling allows, because the ledger is one
and the same in all frames.  `Composed.budgets` puts both together. -/

namespace BotScript

open Script

namespace Call

def isMessage : Call → Bool
  | sendMessage .. | editMessage .. | deleteMessage .. => true
  | _ => false

/-- Whether a role is given or taken, at once or later. -/
def isRoleChange : Call → Bool
  | addRole .. | removeRole .. | scheduleAddRole .. | scheduleRemoveRole .. => true
  | _ => false

def isScheduledDeletion : Call → Bool
  | scheduleDeleteMessage .. => true
  | _ => false

def isAddReaction : Call → Bool
  | addReaction .. => true
  | _ => false

def isRemoveReaction : Call → Bool
  | removeReaction .. => true
  | _ => false

end Call

namespace Act

/-- Whether the shared budget granted something to a call of a function. -/
def passed (a : Act) : Bool := decide (.demanded .apiCall true ∈ a.events)

/-- How many calls of a kind an act causes, if it is an act of one of some functions. -/
def callsAs (functions : List Builtin) (p : Call → Bool) (a : Act) : Nat :=
  if a.function ∈ functions then callsIn p a.events else 0

/-- How many reactions an act adds to the response by the function for that. -/
def pushedAs (functions : List Builtin) (a : Act) : Nat :=
  if a.function ∈ functions then a.pushed else 0

end Act

/-- How many calls of a kind some functions cause in a run. -/
def callsBy (functions : List Builtin) (p : Call → Bool) (acts : List Act) : Nat :=
  (acts.map (Act.callsAs functions p)).sum

/-- How many reactions some functions add to responses in a run. -/
def pushedBy (functions : List Builtin) (acts : List Act) : Nat :=
  (acts.map (Act.pushedAs functions)).sum

/-! ### What one act may cause -/

namespace Act

variable {env : Environment} {a : Act} {d : Demand} {p : Call → Bool}

/-- What a function does is confined to its powers. -/
theorem IsOwn.leave (h : a.IsOwn env) : a.after.log = a.events ++ a.before.log ∧
    ∃ arguments, ∀ e ∈ a.events, (a.function.powers arguments).Allow e := by
  obtain ⟨hOwn, engine, arguments, hAfter⟩ := h
  obtain ⟨new, hLeave⟩ := (a.function.confined_of_own engine hOwn arguments).leaves env a.before
  rw [← hAfter] at hLeave
  rw [events_eq hLeave.log]
  exact ⟨hLeave.log, arguments, hLeave.allowed⟩

theorem IsOwn.calls_le (h : a.IsOwn env)
    (hPays : ∀ engine arguments, Pays (.calls p) d 0 (a.function.run engine arguments)) :
    callsIn p a.events ≤ granted d a.events := by
  obtain ⟨hLog, -⟩ := h.leave
  obtain ⟨-, engine, arguments, hAfter⟩ := h
  have hSpent := hPays engine arguments env a.before
  simp only [Measure.calls, ← hAfter, hLog, granted_append, callsIn, List.countP_append] at hSpent
  rw [callsIn]
  omega

theorem IsOwn.pushed_le (h : a.IsOwn env)
    (hPays : ∀ engine arguments, Pays .reactions d 0 (a.function.run engine arguments)) :
    a.pushed ≤ granted d a.events := by
  obtain ⟨hLog, -⟩ := h.leave
  obtain ⟨-, engine, arguments, hAfter⟩ := h
  have hSpent := hPays engine arguments env a.before
  simp only [Measure.reactions, ← hAfter, hLog, granted_append] at hSpent
  rw [pushed]
  omega

theorem message_of_calls {b : Builtin} {arguments : List Value} {c : Call}
    (h : (b.powers arguments).calls c) (hMessage : c.isMessage = true) :
    b ∈ Builtin.sharing := by
  cases b with
  | sendMessage | editMessage | deleteMessage | giveRoleID | takeRoleID => decide
  | addMessageReactions | addReactions | hasPermissions =>
    obtain ⟨_, _, _, rfl⟩ := h
    exact nomatch hMessage
  | deleteMessageReaction | deleteTrigger =>
    obtain ⟨_, _, _, _, rfl⟩ := h
    exact nomatch hMessage
  | setRoles =>
    obtain ⟨_, _, _, rfl | rfl⟩ := h
    · exact nomatch hMessage
    · exact nomatch hMessage
  | _ => exact absurd h id

/-- Of the functions only those that share a budget change messages. -/
theorem IsOwn.no_message (h : a.IsOwn env) (hOther : a.function ∉ Builtin.sharing) :
    callsIn Call.isMessage a.events = 0 := by
  obtain ⟨-, arguments, hAllow⟩ := h.leave
  refine List.countP_eq_zero.mpr fun e he => ?_
  have hAllowed := hAllow e he
  cases e with
  | called c succeeded => exact fun hMessage => hOther (message_of_calls hAllowed hMessage)
  | demanded _ _ | slept _ | began _ | ended _ => exact Bool.false_ne_true

end Act

/-- No call is of two of these kinds. -/
theorem callsIn_kinds_le (log : List Event) :
    callsIn Call.isMessage log + callsIn Call.isRoleChange log +
      callsIn Call.isScheduledDeletion log ≤ callsIn (fun _ => true) log := by
  induction log with
  | nil => exact Nat.le_refl 0
  | cons e rest ih =>
    simp only [callsIn, List.countP_cons] at ih ⊢
    cases e with
    | called c succeeded =>
      cases c <;>
        simp [Event.isCall, Call.isMessage, Call.isRoleChange, Call.isScheduledDeletion] <;> omega
    | demanded _ _ | slept _ | began _ | ended _ => simpa [Event.isCall] using ih

/-- What is taken from the shared budget by an act, setting roles apart. -/
def Act.shared (a : Act) : Nat :=
  callsIn Call.isMessage a.events + a.callsAs [.giveRoleID, .takeRoleID] Call.isRoleChange +
    a.callsAs [.deleteMessage] Call.isScheduledDeletion

theorem Act.IsOwn.shared_le {env : Environment} {a : Act} (h : a.IsOwn env) :
    a.shared ≤ granted .apiCall a.events := by
  by_cases hShares : a.function ∈ Builtin.sharing
  · have hAll := h.calls_le (p := fun _ => true) (Builtin.sharing_pays _ · · hShares)
    have hKinds := callsIn_kinds_le a.events
    simp only [shared, callsAs]
    split <;> split <;> omega
  · have hNone := h.no_message hShares
    have hRoles : a.function ∉ [Builtin.giveRoleID, .takeRoleID] := fun hMem =>
      hShares (List.mem_of_mem_drop (i := 3) hMem)
    have hDelete : a.function ∉ [Builtin.deleteMessage] := fun hMem =>
      hShares (by rw [List.mem_singleton.mp hMem]; decide)
    rw [shared, callsAs, callsAs, if_neg hRoles, if_neg hDelete]
    omega

/-! ### What all acts may cause -/

theorem countP_le_sum {p : Act → Bool} {cost : Act → Nat} (h : ∀ a, p a = true → 1 ≤ cost a)
    (acts : List Act) : acts.countP p ≤ (acts.map cost).sum := by
  induction acts with
  | nil => exact Nat.le_refl 0
  | cons a rest ih =>
    rw [List.countP_cons, List.map_cons, List.sum_cons]
    split
    · have hOne := h a ‹_›
      omega
    · omega

section Runs

variable {env : Environment} {s after : Session} {acts : List Act} {new : List Event} {d : Demand}
  {key : String} {cost : Act → Nat}

/-- What acts cause and pay for is granted in the run. -/
theorem Records.sum_le_granted (h : Records env s acts after new)
    (hCost : ∀ a, a.IsOwn env → cost a ≤ granted d a.events) :
    (acts.map cost).sum ≤ granted d new := by
  obtain ⟨asides, hPerm, -⟩ := h.shuffled
  calc (acts.map cost).sum
      ≤ (acts.map (List.count (.demanded d true) ∘ Act.events)).sum :=
        List.sum_le_sum fun a ha => hCost a (h.own a ha)
    _ = granted d (acts.flatMap Act.events) := List.count_flatMap.symm
    _ ≤ granted d (acts.flatMap Act.events) + granted d asides := Nat.le_add_right _ _
    _ = granted d new := by
        rw [← granted_append]
        exact (hPerm.count_eq _).symm

theorem Records.sum_le_ceiling (h : Records env env.start acts after new) (hKey : d.key? = some key)
    (hMax : d.ceiling env.limits.apiCalls env.trigger.premium < Ledger.maxCount)
    (hCost : ∀ a, a.IsOwn env → cost a ≤ granted d a.events) :
    (acts.map cost).sum ≤ d.ceiling env.limits.apiCalls env.trigger.premium :=
  (h.sum_le_granted hCost).trans (h.booked.granted_le hKey hMax).2

theorem Records.reactions_le (h : Records env env.start acts after new) (key : String)
    (hCost : ∀ a, a.IsOwn env → cost a ≤ granted (.calls key maxReactions) a.events) :
    (acts.map cost).sum ≤ 20 := by
  have hMax : maxReactions < Ledger.maxCount := by decide
  exact h.sum_le_ceiling (d := .calls key maxReactions) rfl hMax hCost

/-- No aside changes a message. -/
theorem Records.messages_eq (h : Records env s acts after new) :
    callsIn Call.isMessage new = (acts.map fun a => callsIn Call.isMessage a.events).sum := by
  obtain ⟨asides, hPerm, hAsides⟩ := h.shuffled
  have hNone : asides.countP (Event.isCall Call.isMessage) = 0 := by
    refine List.countP_eq_zero.mpr fun e he => ?_
    have hAside := hAsides e he
    cases e with
    | called c succeeded =>
      rcases hAside with ⟨user, rfl⟩ | ⟨frame, text, rfl⟩
      · exact Bool.false_ne_true
      · exact Bool.false_ne_true
    | demanded _ _ | slept _ | began _ | ended _ => exact Bool.false_ne_true
  rw [callsIn, hPerm.countP_eq, List.countP_append, hNone, Nat.add_zero, List.countP_flatMap]
  rfl

theorem Act.IsOwn.callsAs_le {a : Act} (h : a.IsOwn env) {b : Builtin} {p : Call → Bool}
    (hPays : ∀ engine arguments, Pays (.calls p) d 0 (b.run engine arguments)) :
    a.callsAs [b] p ≤ granted d a.events := by
  rw [callsAs]
  split
  · rename_i hFunction
    rw [List.mem_singleton] at hFunction
    exact h.calls_le fun engine arguments => hFunction ▸ hPays engine arguments
  · exact Nat.zero_le _

theorem Act.IsOwn.pushedAs_le {a : Act} (h : a.IsOwn env) {b : Builtin}
    (hPays : ∀ engine arguments, Pays .reactions d 0 (b.run engine arguments)) :
    a.pushedAs [b] ≤ granted d a.events := by
  rw [pushedAs]
  split
  · rename_i hFunction
    rw [List.mem_singleton] at hFunction
    exact h.pushed_le fun engine arguments => hFunction ▸ hPays engine arguments
  · exact Nat.zero_le _

end Runs

/-- No nested call uncounts anything, or raises the ceiling of the shared budget. -/
theorem nested_keeps_counts {engine : Engine} (hEngine : ∀ t, Composed (engine t)) (name : String)
    (target : Target) (arguments : List Value) (env : Environment) (s : Session) :
    let after := ((nested engine name target arguments).perform env s).2
    (∀ key, min Ledger.maxCount (s.ledger.count key) ≤ after.ledger.count key) ∧
      after.ledger.apiCeiling = s.ledger.apiCeiling := by
  intro after
  obtain ⟨acts, hActs⟩ := (Composed.nested hEngine name target arguments).enacts env s
  obtain ⟨new, hRecords⟩ := hActs.records
  have hLedger : after.ledger = s.ledger.after new := hRecords.ledger
  rw [hLedger]
  exact ⟨fun key => Ledger.le_count_after (Nat.min_le_left _ _) (Nat.min_le_right _ _) new,
    (Ledger.after_settings s.ledger new).1⟩

/-- In every run that starts afresh no more calls of functions get past the shared budget than its
ceiling allows, if counting does not stop there, and neither are there more changes of messages,
changes of roles by the two functions for one role, and deletions scheduled by `deleteMessage`, all
together.  The functions that deal with reactions cause no more than 20 each.  Nested calls are made
from the same budgets and give nothing back. -/
theorem Composed.budgets {env : Environment} {α : Type} {x : Script α} (hx : Composed x)
    (hMax : env.limits.apiCalls < Ledger.maxCount) :
    (∃ acts, Enacts env x env.start acts) ∧
    (∀ acts, Enacts env x env.start acts →
      acts.countP Act.passed ≤ env.limits.apiCalls ∧
      callsIn Call.isMessage (x.perform env env.start).2.log +
        callsBy [.giveRoleID, .takeRoleID] Call.isRoleChange acts +
        callsBy [.deleteMessage] Call.isScheduledDeletion acts ≤ env.limits.apiCalls ∧
      callsBy [.addReactions] Call.isAddReaction acts ≤ 20 ∧
      callsBy [.addMessageReactions] Call.isAddReaction acts ≤ 20 ∧
      callsBy [.deleteMessageReaction] Call.isRemoveReaction acts ≤ 20 ∧
      pushedBy [.addResponseReactions] acts ≤ 20) ∧
    ∀ engine : Engine, (∀ t, Composed (engine t)) → ∀ name target arguments (s : Session),
      let after := ((Script.nested engine name target arguments).perform env s).2
      (∀ key, min Ledger.maxCount (s.ledger.count key) ≤ after.ledger.count key) ∧
        after.ledger.apiCeiling = s.ledger.apiCeiling := by
  refine ⟨hx.enacts env env.start, fun acts hActs => ?_, fun engine hEngine name target arguments =>
    nested_keeps_counts hEngine name target arguments env⟩
  obtain ⟨new, h⟩ := hActs.records
  have hLog : (x.perform env env.start).2.log = new := h.log.trans (List.append_nil new)
  refine ⟨?_, ?_, ?_, ?_, ?_, ?_⟩
  · have hPassed : ∀ a : Act, a.passed = true → 1 ≤ granted .apiCall a.events := fun a hPassed =>
      List.count_pos_iff.mpr (of_decide_eq_true hPassed)
    exact (countP_le_sum hPassed acts).trans
      (h.sum_le_ceiling (d := .apiCall) rfl hMax fun a _ => Nat.le_refl _)
  · have hShared := h.sum_le_ceiling (d := .apiCall) rfl hMax fun a ha => ha.shared_le
    rw [hLog, h.messages_eq, callsBy, callsBy, ← List.sum_map_add, ← List.sum_map_add]
    exact hShared
  · exact h.reactions_le "add_reaction_trigger" fun a ha => ha.callsAs_le fun _ arguments =>
      addReactions_pays _ arguments
  · exact h.reactions_le "add_reaction_message" fun a ha => ha.callsAs_le fun _ arguments =>
      addMessageReactions_pays _ arguments
  · exact h.reactions_le "del_reaction_message" fun a ha => ha.callsAs_le fun _ arguments =>
      deleteMessageReaction_pays _ arguments
  · exact h.reactions_le "add_reaction_response" fun a ha => ha.pushedAs_le fun _ arguments =>
      addResponseReactions_pays arguments

/-- Renders every template as one message and no output. -/
def greeting : Engine := fun _ => do
  let _ ← Builtin.sendMessage.run (fun _ => pure "") [.null, .text "hello"]
  return ""

theorem budgets_of_greeting : ∃ acts,
    Enacts sampleEnvironment (nested greeting "child" (.channel none) []) sampleEnvironment.start
      acts ∧
    acts.countP Act.passed ≤ 100 ∧
    callsIn Call.isMessage ((nested greeting "child" (.channel none) []).perform sampleEnvironment
      sampleEnvironment.start).2.log = 1 ∧
    callsBy [.giveRoleID, .takeRoleID] Call.isRoleChange acts ≤ 99 := by
  have hGreeting : ∀ t, Composed (greeting t) := fun _ =>
    .bind (.builtin (fun _ => .pure "") _ _) fun _ => .pure ""
  have hNested : Composed (nested greeting "child" (.channel none) []) := .nested hGreeting _ _ _
  obtain ⟨⟨acts, hActs⟩, hBudgets, -⟩ := @Composed.budgets sampleEnvironment _ _ hNested (by decide)
  obtain ⟨hPassed, hShared, -⟩ := hBudgets acts hActs
  have hOne : callsIn Call.isMessage ((nested greeting "child" (.channel none) []).perform
      sampleEnvironment sampleEnvironment.start).2.log = 1 := by decide
  have hCeiling : sampleEnvironment.limits.apiCalls = 100 := rfl
  exact ⟨acts, hActs, hPassed, hOne, by omega⟩

end BotScript
