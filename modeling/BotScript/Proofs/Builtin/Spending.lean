import BotScript.Proofs.Builtin.Budget
import BotScript.Proofs.Ledger.Grants

/-! What functions do for what they are granted.  `Pays m d credit x` says that a script adds to a
measure no more than one for each time that the demand `d` is granted to it, and `credit` besides.
The functions that change messages and roles pay for all their calls from the shared budget, and
those that deal with reactions pay for each reaction. -/

namespace BotScript

open Script

/-- Whether an event is a call of a kind. -/
def Event.isCall (p : Call → Bool) : Event → Bool
  | .called c _ => p c
  | _ => false

/-- How many calls of a kind there are in a log. -/
def callsIn (p : Call → Bool) (log : List Event) : Nat := log.countP (Event.isCall p)

/-- Something that is counted in a session, to which demands make no difference. -/
structure Measure where
  value : Session → Nat
  demanded : ∀ s ledger d answer,
    value { s with ledger := ledger, log := .demanded d answer :: s.log } = value s

namespace Measure

def calls (p : Call → Bool) : Measure :=
  ⟨fun s => callsIn p s.log, fun _ _ _ _ => List.countP_cons_of_neg (by simp [Event.isCall])⟩

def reactions : Measure := ⟨fun s => s.frame.reactions.length, fun _ _ _ _ => rfl⟩

end Measure

/-- A script that adds to a measure no more than it is granted and has credit for. -/
def Pays (m : Measure) (d : Demand) (credit : Nat) {α : Type} (x : Script α) : Prop :=
  ∀ env s, m.value (x.perform env s).2 + granted d s.log ≤
    m.value s + granted d (x.perform env s).2.log + credit

section Pays

variable {m : Measure} {d : Demand} {credit more : Nat} {α β : Type} {x : Script α}
  {f : α → Script β}

theorem pays_looking (hx : Confined .none x) : Pays m d credit x := by
  intro env s
  rw [(perform_looking hx env s).1]
  omega

theorem pays_bind (hx : Pays m d credit x) (hf : ∀ a, Pays m d more (f a)) :
    Pays m d (credit + more) (x >>= f) := by
  intro env s
  have hFirst := hx env s
  rw [perform_bind]
  rcases hPerform : x.perform env s with ⟨fault | a, after⟩
  · rw [hPerform] at hFirst
    simp only at hFirst ⊢
    omega
  · have hRest := hf a env after
    rw [hPerform] at hFirst
    simp only at hFirst ⊢
    omega

theorem pays_looking_bind (hx : Confined .none x) (hf : ∀ a, Pays m d credit (f a)) :
    Pays m d credit (x >>= f) := by
  rw [← Nat.zero_add credit]
  exact pays_bind (pays_looking hx) hf

theorem pays_bind_looking (hx : Pays m d credit x) (hf : ∀ a, Confined .none (f a)) :
    Pays m d credit (x >>= f) :=
  pays_bind hx fun a => (pays_looking (hf a) : Pays m d 0 (f a))

/-- A demand that is granted pays for one, and after one that is refused nothing happens. -/
theorem pays_demand_bind {g : Unit → Script β} (hg : Pays m d 1 (g ())) :
    Pays m d 0 (demand d >>= g) := by
  intro env s
  rw [perform_bind, perform_demand]
  rcases hEnsure : s.ledger.ensure d with ⟨fault | ⟨⟩, ledger⟩
  · show m.value { s with ledger := ledger, log := .demanded d false :: s.log } + granted d s.log ≤
      m.value s + granted d (.demanded d false :: s.log) + 0
    rw [m.demanded, granted, granted, List.count_cons_of_ne (by simp)]
    omega
  · let charged : Session := { s with ledger := ledger, log := .demanded d true :: s.log }
    have hRest := hg env charged
    have hValue : m.value charged = m.value s := m.demanded s ledger d true
    have hGranted : granted d charged.log = granted d s.log + 1 := List.count_cons_self
    show m.value ((g ()).perform env charged).2 + granted d s.log ≤
      m.value s + granted d ((g ()).perform env charged).2.log + 0
    omega

theorem pays_forM {f : β → Script PUnit} (h : ∀ b, Pays m d 0 (f b)) (bs : List β) :
    Pays m d 0 (bs.forM f) := by
  induction bs with
  | nil => exact pays_looking (.pure _)
  | cons b bs ih => exact pays_bind (h b) fun _ => ih

theorem pays_call (p : Call → Bool) (c : Call) : Pays (.calls p) d 1 (call c) := by
  intro env s
  rw [perform_call]
  have hGranted : granted d (.called c (env.host.answer s.log c).toBool :: s.log) =
      granted d s.log := List.count_cons_of_ne (by simp)
  have hCalls : callsIn p (.called c (env.host.answer s.log c).toBool :: s.log) ≤
      callsIn p s.log + 1 := by
    rw [callsIn, List.countP_cons, callsIn]
    split <;> omega
  simp only [Measure.calls, hGranted]
  omega

theorem pays_pushing (emoji : String) : Pays .reactions d 1
    (editFrame fun f => { f with reactions := f.reactions ++ [emoji] }) := by
  intro env s
  show (s.frame.reactions ++ [emoji]).length + granted d s.log ≤ s.frame.reactions.length + _ + 1
  rw [List.length_append, List.length_singleton]
  show _ ≤ s.frame.reactions.length + granted d s.log + 1
  omega

end Pays

/-! ### The shared budget -/

section Shared

variable (p : Call → Bool) (engine : Engine) (arguments : List Value)

theorem pays_call_done (c : Call) :
    Pays (.calls p) .apiCall 1 (call c >>= fun _ => pure done : Script Value) :=
  pays_bind_looking (pays_call p c) fun _ => .pure _

theorem sendMessage_pays : Pays (.calls p) .apiCall 0 (Script.sendMessage arguments) := by
  refine pays_demand_bind (pays_looking_bind (channelOf_confined _) fun channel => ?_)
  simp only
  split
  · exact pays_looking (.pure _)
  · exact pays_bind_looking (pays_call p _) fun _ => .pure _

theorem editMessage_pays : Pays (.calls p) .apiCall 0 (Script.editMessage arguments) :=
  pays_looking_bind (.orMistake _) fun _ => pays_demand_bind <|
    pays_looking_bind (channelOf_confined _) fun _ => pays_looking_bind (.orMistake _) fun _ =>
      pays_call_done p _

theorem deleteMessage_pays : Pays (.calls p) .apiCall 0 (Script.deleteMessage arguments) := by
  refine pays_looking_bind (.orMistake _) fun _ => pays_demand_bind <|
    pays_looking_bind (channelOf_confined _) fun channel =>
    pays_looking_bind (.orMistake _) fun message => pays_looking_bind (.ask _) fun limits => ?_
  simp only
  split
  · exact pays_call_done p _
  · exact pays_looking_bind (afterSeconds_confined _) fun due =>
      pays_looking_bind (.ask _) fun guild => pays_call_done p _

theorem changeRole_pays (function : String) (give : Bool) :
    Pays (.calls p) .apiCall 0 (changeRole function give arguments) := by
  refine pays_looking_bind (.orMistake _) fun _ => pays_demand_bind <|
    pays_looking_bind (.orMistake _) fun user => pays_looking_bind (.orMistake _) fun role =>
    pays_looking_bind (.ask _) fun guild => ?_
  simp only
  split
  · refine pays_looking_bind (after_confined _) fun due => ?_
    cases give with
    | true => exact pays_call_done p _
    | false => exact pays_call_done p _
  · cases give with
    | true => exact pays_call_done p _
    | false => exact pays_call_done p _

/-- The functions that make one call at most for what they are granted of the shared budget. -/
def Builtin.sharing : List Builtin :=
  [.sendMessage, .editMessage, .deleteMessage, .giveRoleID, .takeRoleID]

theorem Builtin.sharing_pays {b : Builtin} (h : b ∈ sharing) :
    Pays (.calls p) .apiCall 0 (b.run engine arguments) := by
  simp only [sharing, List.mem_cons, List.not_mem_nil, or_false] at h
  rcases h with rfl | rfl | rfl | rfl | rfl
  · exact sendMessage_pays p arguments
  · exact editMessage_pays p arguments
  · exact deleteMessage_pays p arguments
  · exact changeRole_pays p arguments "giveRoleID" true
  · exact changeRole_pays p arguments "takeRoleID" false

end Shared

/-! ### Reactions -/

section Reactions

variable (p : Call → Bool) (arguments : List Value)

theorem eachReaction_pays {m : Measure} {key : String} {emojis : List String}
    {act : String → Script Unit} (hAct : ∀ emoji, Pays m (.calls key maxReactions) 1 (act emoji)) :
    Pays m (.calls key maxReactions) 0 (eachReaction key emojis act) :=
  pays_bind_looking (pays_forM (fun emoji => pays_demand_bind (hAct emoji)) emojis) fun _ =>
    .pure _

theorem addReactions_pays :
    Pays (.calls p) (.calls "add_reaction_trigger" maxReactions) 0 (addReactions arguments) :=
  pays_looking_bind triggerMessage_confined fun _ => eachReaction_pays fun _ => pays_call p _

theorem addMessageReactions_pays :
    Pays (.calls p) (.calls "add_reaction_message" maxReactions) 0
      (addMessageReactions arguments) :=
  pays_looking_bind (.orMistake _) fun _ => pays_looking_bind (channelOf_confined _) fun _ =>
    pays_looking_bind (.orMistake _) fun _ => eachReaction_pays fun _ => pays_call p _

theorem deleteMessageReaction_pays :
    Pays (.calls p) (.calls "del_reaction_message" maxReactions) 0
      (deleteMessageReaction arguments) :=
  pays_looking_bind (.orMistake _) fun _ => pays_looking_bind (channelOf_confined _) fun _ =>
    pays_looking_bind (.orMistake _) fun _ => pays_looking_bind (.orMistake _) fun _ =>
      eachReaction_pays fun _ => pays_call p _

theorem addResponseReactions_pays :
    Pays .reactions (.calls "add_reaction_response" maxReactions) 0
      (addResponseReactions arguments) :=
  eachReaction_pays fun emoji => pays_pushing emoji

end Reactions

end BotScript
