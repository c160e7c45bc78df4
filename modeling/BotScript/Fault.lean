import BotScript.Text.Integer
import BotScript.Text.Quoted
import BotScript.Value

/-! What can go wrong while a script runs, by cause.  `Fault.message` holds the wording. -/

namespace BotScript

/-- A budget of the execution that is used up. -/
inductive Budget
  | calls
  | apiCalls
  | sleep (limit : Nat)
  | patterns
  deriving DecidableEq

/-- A mistake in what a script passed. -/
inductive Mistake
  | nilKey
  | keyKind (kind : Kind)
  | oddEntries
  | nilCollection
  | notCollection (kind : Kind)
  | keyNotText (kind : Kind)
  | argumentNotText (kind : Kind)
  | setOutOfRange (index length : Nat)
  | listTooLong
  | duration (text : String)
  | hexNumber (text : String) (cause : IntegerFault)
  | optionNotBool (name : String) (kind : Kind)
  | unknownOption (name : String)
  | indexOutOfRange (index : Int64)
  | listKey (kind : Kind)
  | keyNotFound (key : String)
  | notIndexable (kind : Kind)
  | nilNotIndexable
  | notSortable (kind : Kind)
  | tooFewArguments (function : String) (least given : Nat)
  | invalidId (function value : String)
  | noTemplateName
  | messageOnLeave
  | delayTooLong
  | secondsTooLong (seconds : Nat)
  | noBounds
  | emptyBounds
  deriving DecidableEq

/-- Something that a script named and that does not exist. -/
inductive Missing
  | channel
  | channelMatching (query : String)
  | template (name : String)
  | handle (name : String)
  | function (name : String)
  | triggerMessage
  | triggerMember
  | member (id : Nat)
  deriving DecidableEq

/-- Why template arguments are refused. -/
inductive UnsafeArguments
  | wholeBag
  | deepOrBag
  deriving DecidableEq

/-- What is wrong with settings. -/
inductive SettingsFault
  | malformed
  | zeroLimit (name : String)
  deriving DecidableEq

/-- What can go wrong while a script runs.  An `overflow` is a sum that does not fit the word that
it is kept in, and the whole run ends with it. -/
inductive Fault
  | exhausted (budget : Budget)
  | invalid (mistake : Mistake)
  | unsafeArguments (reason : UnsafeArguments)
  | nested
  | missing (what : Missing)
  | pattern
  | platform (text : String)
  | template (text : String)
  | settings (fault : SettingsFault)
  | file
  | overflow
  deriving DecidableEq

namespace Budget

def message : Budget → String
  | calls => "too many calls to this function"
  | apiCalls => "too many potential api calls in this execution"
  | sleep limit => "can sleep for max " ++ toString limit ++ " seconds combined"
  | patterns => "too many unique regular expressions (regex cache full)"

end Budget

namespace Mistake

def message : Mistake → String
  | nilKey => "nil map key"
  | keyKind kind => "invalid map key of kind " ++ kind.name
  | oddEntries => "invalid dict call"
  | nilCollection => "nil value passed"
  | notCollection kind => "cannot convert data of type: " ++ kind.name
  | keyNotText kind => "map has non string key of type: " ++ kind.name
  | argumentNotText kind => "only string keys supported in sdict, got " ++ kind.name
  | setOutOfRange index length =>
    "index out of range: " ++ toString index ++ " with length " ++ toString length
  | listTooLong => "resulting slice exceeds 10000 elements"
  | duration text => "invalid duration: " ++ quoted text
  | hexNumber text cause => "invalid hex value " ++ quoted text ++ ": " ++ cause.message
  | optionNotBool name kind =>
    "sort option " ++ quoted name ++ " must be a bool, got " ++ kind.name
  | unknownOption name => "unknown sort option " ++ quoted name
  | indexOutOfRange index => "index " ++ toString index.toInt ++ " out of range"
  | listKey kind => "cannot index slice by key of type " ++ kind.name
  | keyNotFound key => "key " ++ key ++ " not found in map"
  | notIndexable kind => "cannot index value of type " ++ kind.name
  | nilNotIndexable => "cannot index value of type nil"
  | notSortable kind => "sort: expected a list, got " ++ kind.name
  | tooFewArguments function least given =>
    function ++ ": expected at least " ++ toString least ++ " arguments, got " ++ toString given
  | invalidId function value => function ++ ": invalid id " ++ value
  | noTemplateName => "no template name passed"
  | messageOnLeave => "can't send a DM from a leave trigger"
  | delayTooLong => "delay out of range"
  | secondsTooLong seconds => "delay of " ++ toString seconds ++ "s out of range"
  | noBounds => "randInt: no arguments passed"
  | emptyBounds => "randInt: stop must be larger than start"

end Mistake

namespace Missing

def message : Missing → String
  | channel => "channel"
  | channelMatching query => "channel " ++ query
  | template name => "template " ++ quoted name
  | handle name => name
  | function name => "function " ++ quoted name
  | triggerMessage => "trigger message"
  | triggerMember => "member to DM"
  | member id => "member " ++ toString id

end Missing

namespace UnsafeArguments

def message : UnsafeArguments → String
  | wholeBag => "the whole data bag can't be passed as template arguments"
  | deepOrBag => "arguments are too deeply nested or contain the data bag"

end UnsafeArguments

namespace SettingsFault

def message : SettingsFault → String
  | malformed => "parse error"
  | zeroLimit name => "limits." ++ name ++ " must be greater than zero"

end SettingsFault

namespace Fault

/-- The text that is shown for a fault. -/
def message : Fault → String
  | exhausted budget => budget.message
  | invalid mistake => "validation error: " ++ mistake.message
  | unsafeArguments reason => "unsafe template arguments: " ++ reason.message
  | nested => "cannot nest further: can't call this in a nested template"
  | missing what => what.message ++ " not found"
  | pattern => "regex error"
  | platform text => text
  | template text => "template error: " ++ text
  | settings fault => "configuration error: " ++ fault.message
  | file => "I/O error"
  | overflow => "attempt to add with overflow"

/-- The name of a fault's kind. -/
def label : Fault → String
  | exhausted _ => "Quota"
  | invalid _ => "Validation"
  | unsafeArguments _ => "UnsafeArgs"
  | nested => "NestingLimit"
  | missing _ => "NotFound"
  | pattern => "Regex"
  | platform _ => "Collaborator"
  | template _ => "Template"
  | settings _ => "Config"
  | file => "Io"
  | overflow => "panic"

/-- Whether a budget check refused. -/
def isExhausted : Fault → Bool
  | exhausted _ => true
  | _ => false

end Fault

end BotScript
