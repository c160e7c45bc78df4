import BotScript.Builtin.Access

/-! Functions that say what is to happen to the response of the current frame, and to the message
that triggered the execution. -/

namespace BotScript.Script

/-- Has the response deleted after a delay. -/
def deleteResponse (arguments : List Value) : Script Value := do
  let delay := deleteDelay (← ask (·.limits)) (givenArgument? arguments 0)
  editFrame fun f => { f with deleteResponse := true, deleteDelay := delay }
  return done

/-- Has the triggering message deleted after a delay. -/
def deleteTrigger (arguments : List Value) : Script Value := do
  let (channel, message) ← triggerMessage
  let delay := deleteDelay (← ask (·.limits)) (givenArgument? arguments 0)
  let due ← afterSeconds delay
  call (.scheduleDeleteMessage (← ask (·.trigger.guild)) channel message due)
  return done

/-- Lets the response mention everyone. -/
def mentionEveryone : Script Value := do
  editFrame fun f => { f with mentionEveryone := true }
  return .text "@everyone"

/-- Lets the response mention everyone who is here. -/
def mentionHere : Script Value := do
  editFrame fun f => { f with mentionHere := true }
  return .text "@here"

/-- Lets the response mention a role. -/
def mentionRole (arguments : List Value) : Script Value := do
  let role ← orMistake (idOf "mentionRoleID" (argument arguments 0))
  editFrame fun f => f.mentionRole role
  return .text ("<@&" ++ toString role ++ ">")

end BotScript.Script
