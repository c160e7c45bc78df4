import BotScript.Frame
import BotScript.Ledger

/-! The chat platform as an execution sees it: what it is asked to do, what it answers, and what can
be looked up. -/

namespace BotScript

/-- A member of a guild. -/
structure Member where
  user : Nat
  roles : List Nat
  deriving DecidableEq

/-- What the platform is asked to do. -/
inductive Call
  | sendMessage (channel : Nat) (text : String)
  | editMessage (channel message : Nat) (text : String)
  | deleteMessage (channel message : Nat)
  | addReaction (channel message : Nat) (emoji : String)
  | removeReaction (channel message user : Nat) (emoji : String)
  | openDirect (user : Nat)
  | sendResponse (frame : Frame) (text : String)
  | addRole (guild user role : Nat)
  | removeRole (guild user role : Nat)
  | permissions (guild channel user : Nat)
  | scheduleAddRole (guild user role : Nat) (due : Instant)
  | scheduleRemoveRole (guild user role : Nat) (due : Instant)
  | scheduleDeleteMessage (guild channel message : Nat) (due : Instant)
  deriving DecidableEq

namespace Call

/-- What the platform answers when it does what it is asked: the number of a new message, the
channel that was opened, the bits of permissions, or nothing. -/
abbrev Reply : Call → Type
  | sendMessage .. => Nat
  | openDirect _ => Channel
  | sendResponse .. => Option Nat
  | permissions .. => Nat
  | _ => Unit

end Call

/-- What happens during an execution: a demand of the budgets is granted or refused, time is slept
away, the platform is asked to do something and does it or fails, and a nested template begins in a
frame or ends with one. -/
inductive Event
  | demanded (demand : Demand) (granted : Bool)
  | slept (seconds : Nat)
  | called (call : Call) (succeeded : Bool)
  | began (frame : Frame)
  | ended (frame : Frame)
  deriving DecidableEq

/-- The host of an execution: what it knows of channels, members and templates, and what time it is,
which number below a bound is drawn and how the platform answers a call after what has happened
before, the latest first. -/
structure Host where
  channel : Value → Option Channel
  member : Nat → Option Member
  template : String → Option Template
  clock : List Event → Instant
  draw : List Event → Nat → Nat
  answer : List Event → (c : Call) → Except Fault c.Reply

/-- What an execution runs for. -/
inductive Origin
  | command
  | reaction
  | join
  | leave
  | timed
  | interaction
  deriving DecidableEq

/-- The event that an execution runs for. -/
structure Trigger where
  guild : Nat
  channel : Option Channel
  member : Option Member
  message : Option Nat
  origin : Origin
  premium : Bool
  deriving DecidableEq

end BotScript
