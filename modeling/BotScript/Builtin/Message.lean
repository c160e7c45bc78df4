import BotScript.Builtin.Access
import BotScript.Text.Blank

/-! Functions that send, edit and delete messages, all from the shared budget. -/

namespace BotScript.Script

/-- Sends a message, unless there is nothing to see in it, and gives its number. -/
def sendMessage (arguments : List Value) : Script Value := do
  demand .apiCall
  let channel ← channelOf (argument arguments 0)
  let content := (argument arguments 1).toText
  if isAllBlank content then return done
  let message ← call (.sendMessage channel content)
  return .text (toString message)

/-- Gives a message another text. -/
def editMessage (arguments : List Value) : Script Value := do
  orMistake (requireArguments "editMessage" arguments 3)
  demand .apiCall
  let channel ← channelOf (argument arguments 0)
  let message ← orMistake (idOf "editMessage" (argument arguments 1))
  call (.editMessage channel message (argument arguments 2).toText)
  return done

/-- Deletes a message after a delay, or at once if the delay is zero. -/
def deleteMessage (arguments : List Value) : Script Value := do
  orMistake (requireArguments "deleteMessage" arguments 2)
  demand .apiCall
  let channel ← channelOf (argument arguments 0)
  let message ← orMistake (idOf "deleteMessage" (argument arguments 1))
  let delay := deleteDelay (← ask (·.limits)) (givenArgument? arguments 2)
  if delay = 0 then call (.deleteMessage channel message)
  else
    let due ← afterSeconds delay
    call (.scheduleDeleteMessage (← ask (·.trigger.guild)) channel message due)
  return done

end BotScript.Script
