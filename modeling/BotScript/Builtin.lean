import BotScript.Builtin.Message
import BotScript.Builtin.PatternCall
import BotScript.Builtin.Reaction
import BotScript.Builtin.Response
import BotScript.Builtin.Role
import BotScript.Execution.Nested
import BotScript.Sorting
import BotScript.Value.Json

/-! The functions that scripts can call by name. -/

namespace BotScript

/-- The functions, in the order of their names. -/
inductive Builtin
  | addMessageReactions
  | addReactions
  | addResponseReactions
  | cslice
  | deleteMessage
  | deleteMessageReaction
  | deleteResponse
  | deleteTrigger
  | dict
  | editMessage
  | execCounters
  | giveRoleID
  | hasPermissions
  | hasRoleID
  | hexToDecimal
  | isIn
  | isInFolded
  | json
  | kindOf
  | mentionEveryone
  | mentionHere
  | mentionRoleID
  | randInt
  | reFind
  | reFindAll
  | reFindAllSubmatches
  | reQuoteMeta
  | reReplace
  | reSplit
  | sdict
  | sendMessage
  | sendTemplate
  | sendTemplateDM
  | setRoles
  | sha256
  | sleep
  | sort
  | takeRoleID
  | toByte
  | toDuration
  | toFloat
  | toHexInt
  | toInt
  | toInt64
  | toRune
  | toString
  deriving DecidableEq

namespace Script

/-- Draws a number from zero up to a bound, or between two bounds, the second left out. -/
def drawInt (arguments : List Value) : Script Value := do
  let (start, stop) ← match arguments with
    | [] => throw (.invalid .noBounds)
    | [stop] => pure (0, stop.toInt.toInt)
    | start :: stop :: _ => pure (start.toInt.toInt, stop.toInt.toInt)
  if stop ≤ start then throw (.invalid .emptyBounds)
  let drawn ← draw (stop - start).toNat
  return .int (Int64.ofInt (start + drawn))

/-- Sorts a list, once or, with the premium tier, three times in one execution. -/
def sortList (arguments : List Value) : Script Value := do
  demand (.tieredCalls "sort" 1 3)
  match (argument arguments 0).dereference with
  | some (.list items) =>
    let options ← orMistake (SortOptions.ofArguments (arguments.drop 1))
    return .list (← orMistake (Sorting.sort options items))
  | some other => throw (.invalid (.notSortable other.kind))
  | none => return .list []

/-- The counts of the budgets, by key. -/
def counters : Script Value := do
  let counts ← look (·.ledger.counts)
  return .textDict (counts.map fun entry => (entry.1, .int (Int64.ofNat entry.2)))

/-- Runs a template in a channel. -/
def sendTemplate (engine : Engine) (arguments : List Value) : Script Value := do
  orMistake (requireArguments "sendTemplate" arguments 2)
  nested engine (argument arguments 1).toText (.channel (givenArgument? arguments 0))
    (arguments.drop 2)

/-- Runs a template in the direct messages of the triggering member. -/
def sendTemplateToMember (engine : Engine) (arguments : List Value) : Script Value := do
  orMistake (requireArguments "sendTemplateDM" arguments 1)
  nested engine (argument arguments 0).toText .member (arguments.drop 1)

end Script

namespace Builtin

open Script

/-- All functions, in the order of their names. -/
def all : List Builtin :=
  [addMessageReactions, addReactions, addResponseReactions, cslice, deleteMessage,
   deleteMessageReaction, deleteResponse, deleteTrigger, dict, editMessage, execCounters,
   giveRoleID, hasPermissions, hasRoleID, hexToDecimal, isIn, isInFolded, json, kindOf,
   mentionEveryone, mentionHere, mentionRoleID, randInt, reFind, reFindAll, reFindAllSubmatches,
   reQuoteMeta, reReplace, reSplit, sdict, sendMessage, sendTemplate, sendTemplateDM, setRoles,
   sha256, sleep, sort, takeRoleID, toByte, toDuration, toFloat, toHexInt, toInt, toInt64, toRune,
   toString]

/-- The name by which scripts call a function. -/
def name : Builtin → String
  | addMessageReactions => "addMessageReactions"
  | addReactions => "addReactions"
  | addResponseReactions => "addResponseReactions"
  | cslice => "cslice"
  | deleteMessage => "deleteMessage"
  | deleteMessageReaction => "deleteMessageReaction"
  | deleteResponse => "deleteResponse"
  | deleteTrigger => "deleteTrigger"
  | dict => "dict"
  | editMessage => "editMessage"
  | execCounters => "execCounters"
  | giveRoleID => "giveRoleID"
  | hasPermissions => "hasPermissions"
  | hasRoleID => "hasRoleID"
  | hexToDecimal => "hexToDecimal"
  | isIn => "in"
  | isInFolded => "inFold"
  | json => "json"
  | kindOf => "kindOf"
  | mentionEveryone => "mentionEveryone"
  | mentionHere => "mentionHere"
  | mentionRoleID => "mentionRoleID"
  | randInt => "randInt"
  | reFind => "reFind"
  | reFindAll => "reFindAll"
  | reFindAllSubmatches => "reFindAllSubmatches"
  | reQuoteMeta => "reQuoteMeta"
  | reReplace => "reReplace"
  | reSplit => "reSplit"
  | sdict => "sdict"
  | sendMessage => "sendMessage"
  | sendTemplate => "sendTemplate"
  | sendTemplateDM => "sendTemplateDM"
  | setRoles => "setRoles"
  | sha256 => "sha256"
  | sleep => "sleep"
  | sort => "sort"
  | takeRoleID => "takeRoleID"
  | toByte => "toByte"
  | toDuration => "toDuration"
  | toFloat => "toFloat"
  | toHexInt => "toHexInt"
  | toInt => "toInt"
  | toInt64 => "toInt64"
  | toRune => "toRune"
  | toString => "toString"

def ofName? (name : String) : Option Builtin := all.find? fun b => decide (b.name = name)

/-- Whether the first argument, which must be given, is or holds the second. -/
def membership (function : String) (test : Value → Value → Bool) (arguments : List Value) :
    Except Mistake Value := do
  requireArguments function arguments 2
  return .bool (test (argument arguments 0) (argument arguments 1))

/-- What a function does with its arguments.  Nested templates are rendered by `engine`. -/
def run (engine : Engine) (b : Builtin) (arguments : List Value) : Script Value :=
  let first := argument arguments 0
  let second := argument arguments 1
  match b with
  | addMessageReactions => Script.addMessageReactions arguments
  | addReactions => Script.addReactions arguments
  | addResponseReactions => Script.addResponseReactions arguments
  | cslice => pure (.list (Items.ofArguments arguments))
  | deleteMessage => Script.deleteMessage arguments
  | deleteMessageReaction => Script.deleteMessageReaction arguments
  | deleteResponse => Script.deleteResponse arguments
  | deleteTrigger => Script.deleteTrigger arguments
  | dict => orMistake ((Dict.ofArguments arguments).map .dict)
  | editMessage => Script.editMessage arguments
  | execCounters => counters
  | giveRoleID => giveRole arguments
  | hasPermissions => Script.hasPermissions arguments
  | hasRoleID => hasRole arguments
  | hexToDecimal => orMistake (first.hexToDecimal.map .int)
  | isIn => orMistake (membership "in" Value.isIn arguments)
  | isInFolded => orMistake (membership "inFold" Value.isInFolded arguments)
  | json => pure (.text (if second.isTruthy then first.toJson.pretty else first.toJson.compact))
  | kindOf => pure (.text (if second.isTruthy then first.kindInside else first.kind).name)
  | mentionEveryone => Script.mentionEveryone
  | mentionHere => Script.mentionHere
  | mentionRoleID => mentionRole arguments
  | randInt => drawInt arguments
  | reFind => findMatch arguments
  | reFindAll => findMatches arguments
  | reFindAllSubmatches => findRows arguments
  | reQuoteMeta => pure (.text (Pattern.escape first.toText))
  | reReplace => replaceMatches arguments
  | reSplit => splitAtMatches arguments
  | sdict => orMistake ((TextDict.ofArguments arguments).map .textDict)
  | sendMessage => Script.sendMessage arguments
  | sendTemplate => Script.sendTemplate engine arguments
  | sendTemplateDM => sendTemplateToMember engine arguments
  | setRoles => Script.setRoles arguments
  | sha256 => pure (.text first.toSha256)
  | sleep => do
    Script.sleep first.toInt
    return done
  | sort => sortList arguments
  | takeRoleID => takeRole arguments
  | toByte => pure (.list (first.toBytes.map fun b => .int (Int64.ofNat b.toNat)))
  | toDuration => pure (.duration first.toDuration)
  | toFloat => pure (.float first.toFloat)
  | toHexInt => pure (.int first.toHexInt)
  | toInt => pure (.int first.toInt)
  | toInt64 => pure (.int first.toInt)
  | toRune => pure (.list (first.toChars.map fun c => .int (Int64.ofNat c.toNat)))
  | toString => pure (.text first.toText)

/-- Calls a function by its name. -/
def call (engine : Engine) (name : String) (arguments : List Value) : Script Value :=
  match ofName? name with
  | some b => b.run engine arguments
  | none => throw (.missing (.function name))

end Builtin

end BotScript
