import BotScript.Coercion
import BotScript.Platform

/-! Rehearsals: executions on a platform that does nothing but answer.  Messages are numbered from 1
on, and calls can be made to fail by their names. -/

namespace BotScript

/-- The name of a call. -/
def Call.name : Call → String
  | sendMessage .. => "send_message"
  | editMessage .. => "edit_message"
  | deleteMessage .. => "delete_message"
  | addReaction .. => "add_reaction"
  | removeReaction .. => "remove_reaction"
  | openDirect _ => "open_dm"
  | sendResponse .. => "send_response"
  | addRole .. => "add_role"
  | removeRole .. => "remove_role"
  | permissions .. => "permissions"
  | scheduleAddRole .. => "schedule_add_role"
  | scheduleRemoveRole .. => "schedule_remove_role"
  | scheduleDeleteMessage .. => "schedule_delete_message"

/-- The platform of a rehearsal.  `failing` names the calls that fail, and with `silent` responses
get no number. -/
structure Rehearsal where
  channels : List Channel
  members : List Member
  permissions : Nat
  failing : List String
  silent : Bool
  templates : List String

namespace Rehearsal

/-- The instant at which a rehearsal takes place, 2026-01-01. -/
def today : Instant := ⟨1767225600, 0⟩

/-- The channel that a value names by its number or its name, the first of several. -/
def findChannel (r : Rehearsal) (query : Value) : Option Channel :=
  r.channels.find? fun c => decide ((c.id : Int) = query.toInt.toInt) || c.name == query.toText

/-- Whether an event gave a message a number. -/
def isNumbered (r : Rehearsal) : Event → Bool
  | .called (.sendMessage ..) true => true
  | .called (.sendResponse ..) true => !r.silent
  | _ => false

/-- The number of the next message. -/
def nextMessage (r : Rehearsal) (log : List Event) : Nat := log.countP r.isNumbered + 1

/-- What the platform answers when it does not fail. -/
def reply (r : Rehearsal) (log : List Event) : (c : Call) → c.Reply
  | .sendMessage .. => r.nextMessage log
  | .openDirect user => ⟨900, "dm-" ++ toString user, true⟩
  | .sendResponse .. => if r.silent then none else some (r.nextMessage log)
  | .permissions .. => r.permissions
  | .editMessage .. => ()
  | .deleteMessage .. => ()
  | .addReaction .. => ()
  | .removeReaction .. => ()
  | .addRole .. => ()
  | .removeRole .. => ()
  | .scheduleAddRole .. => ()
  | .scheduleRemoveRole .. => ()
  | .scheduleDeleteMessage .. => ()

/-- Why a call fails.  There is no reaction without an emoji. -/
def failure? (r : Rehearsal) (c : Call) : Option Fault :=
  match c with
  | .addReaction _ _ "" => some (.platform "unknown emoji")
  | c => if r.failing.contains c.name then some (.platform (c.name ++ " failed")) else none

def answer (r : Rehearsal) (log : List Event) (c : Call) : Except Fault c.Reply :=
  match r.failure? c with
  | some fault => .error fault
  | none => .ok (r.reply log c)

/-- The host of a rehearsal. -/
def host (r : Rehearsal) : Host where
  channel := r.findChannel
  member user := r.members.find? fun m => m.user == user
  template name := if r.templates.contains name then some ⟨name⟩ else none
  clock _ := today
  draw _ _ := 0
  answer := r.answer

/-- From today to an instant, in whole seconds to the nearest, the earlier of two. -/
def secondsUntil (due : Instant) : Int :=
  ((due.seconds - today.seconds) * Instant.nanosPerSecond + due.nanos + 499999999) /
    Instant.nanosPerSecond

end Rehearsal

end BotScript
