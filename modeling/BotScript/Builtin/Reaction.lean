import BotScript.Builtin.Access

/-! Functions that add and remove reactions.  Each counts every reaction under a key of its own
before anything happens. -/

namespace BotScript.Script

/-- The most reactions that one function may deal with in one execution. -/
def maxReactions : Nat := 20

/-- Does something with each emoji, after counting it under a key. -/
def eachReaction (key : String) (emojis : List String) (act : String → Script Unit) :
    Script Value := do
  emojis.forM fun emoji => do
    demand (.calls key maxReactions)
    act emoji
  return done

/-- Adds reactions to the message that triggered the execution. -/
def addReactions (arguments : List Value) : Script Value := do
  let (channel, message) ← triggerMessage
  eachReaction "add_reaction_trigger" (flattenTexts arguments) fun emoji =>
    call (.addReaction channel message emoji)

/-- Adds reactions to the response, once it is sent. -/
def addResponseReactions (arguments : List Value) : Script Value :=
  eachReaction "add_reaction_response" (flattenTexts arguments) fun emoji =>
    editFrame fun f => { f with reactions := f.reactions ++ [emoji] }

/-- Adds reactions to a message of a channel. -/
def addMessageReactions (arguments : List Value) : Script Value := do
  orMistake (requireArguments "addMessageReactions" arguments 2)
  let channel ← channelOf (argument arguments 0)
  let message ← orMistake (idOf "addMessageReactions" (argument arguments 1))
  eachReaction "add_reaction_message" (flattenTexts (arguments.drop 2)) fun emoji =>
    call (.addReaction channel message emoji)

/-- Removes reactions of a user from a message of a channel. -/
def deleteMessageReaction (arguments : List Value) : Script Value := do
  orMistake (requireArguments "deleteMessageReaction" arguments 3)
  let channel ← channelOf (argument arguments 0)
  let message ← orMistake (idOf "deleteMessageReaction" (argument arguments 1))
  let user ← orMistake (idOf "deleteMessageReaction" (argument arguments 2))
  eachReaction "del_reaction_message" (flattenTexts (arguments.drop 3)) fun emoji =>
    call (.removeReaction channel message user emoji)

end BotScript.Script
