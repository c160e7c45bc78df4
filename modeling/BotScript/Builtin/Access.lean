import BotScript.Arguments
import BotScript.Execution

/-! How functions read their arguments: numbers of users, roles and messages, channels, and
delays. -/

namespace BotScript

/-- The value of a function that is called for what it does. -/
def done : Value := .text ""

/-- The number of a user, role or message, which is positive. -/
def idOf (function : String) (v : Value) : Except Mistake Nat :=
  if 0 < v.toInt.toInt then .ok v.toInt.toInt.toNat else .error (.invalidId function v.print)

/-- The seconds after which something is deleted.  They are read from a value that is given, and
there is a most of them. -/
def deleteDelay (limits : Limits) (delay : Option Value) : Nat :=
  min limits.deleteDelay <|
    match delay with
    | some v => v.toInt.toInt.toNat
    | none => Frame.defaultDeleteDelay

/-- The time after which a role changes.  Numbers count seconds, and as many as no duration has
count as none. -/
def roleDelay (delay : Option Value) : Duration :=
  match delay.bind (·.dereference) with
  | some (.int n) => (Duration.ofSeconds? n.toInt).getD .zero
  | some (.float x) => (Duration.ofSeconds? (Value.intOfFloat x).toInt).getD .zero
  | some v => v.toDuration
  | none => .zero

namespace Script

/-- The number of the channel that a value asks for; nil asks for the current one. -/
def channelOf (query : Value) : Script Nat := do
  if query.isNil then
    let channel ← orMissing .channel (← look (·.frame.channel))
    return channel.id
  else
    let channel ← orMissing (.channelMatching query.print) (← ask (·.host.channel query))
    return channel.id

/-- The channel and the message that triggered the execution. -/
def triggerMessage : Script (Nat × Nat) := do
  let trigger ← ask (·.trigger)
  match trigger.channel, trigger.message with
  | some channel, some message => pure (channel.id, message)
  | _, _ => throw (.missing .triggerMessage)

/-- The instant a duration from now. -/
def after (delay : Duration) : Script Instant := do
  let start ← now
  match start.after? delay with
  | some due => pure due
  | none => throw (.invalid .delayTooLong)

/-- The instant a number of seconds from now. -/
def afterSeconds (seconds : Nat) : Script Instant := do
  let delay := Duration.ofSeconds? seconds
  after (← orMistake (delay.elim (.error (.secondsTooLong seconds)) .ok))

end Script

end BotScript
