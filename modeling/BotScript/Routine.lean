import BotScript.Builtin

/-! Templates that are written as steps: calls of functions, edits of the data bag and of the frame,
and other templates.  Arguments depend on the data bag as it is when their step begins. -/

namespace BotScript

/-- A change of the current frame that is not a function's.  A frame never becomes nested by one. -/
inductive FrameEdit
  | sendInDirect (on : Bool)
  | deleteResponse (on : Bool)
  | mentionEveryone (on : Bool)
  | mentionHere (on : Bool)
  | channel (channel : Option Channel)
  deriving DecidableEq

def FrameEdit.apply (f : Frame) : FrameEdit → Frame
  | sendInDirect on => { f with sendInDirect := on }
  | deleteResponse on => { f with deleteResponse := on }
  | mentionEveryone on => { f with mentionEveryone := on }
  | mentionHere on => { f with mentionHere := on }
  | channel c => { f with channel := c }

/-- A step of a template.  `attempt` turns a fault into a text unless the run ends with it, `host`
runs a template and delivers its output from the current frame, and `nested` runs it in a frame of
its own. -/
inductive Step
  | call (function : String) (arguments : TextDict → List Value)
  | assign (key function : String) (arguments : TextDict → List Value)
  | set (key : String) (value : TextDict → Value)
  | unset (key : String)
  | get (key : String)
  | text (s : String)
  | fail (s : String)
  | attempt (step : Step)
  | edit (change : FrameEdit)
  | nested (name : String) (target : TextDict → Target) (arguments : TextDict → List Value)
  | run (name : String)
  | respond (output : String)
  | host (name : String)

/-- A template as the list of its steps. -/
abbrev Routine := List Step

namespace Step

open Script

/-- The text that an attempt gives for a fault. -/
def faultText (f : Fault) : String := "!" ++ f.label ++ ": " ++ f.message

/-- The template of a name. -/
def handle (name : String) : Script Template := do
  orMissing (.handle name) (← ask (·.host.template name))

/-- What a step does and gives.  Templates are rendered by `engine`. -/
def perform (engine : Engine) : Step → Script Value
  | call function arguments => do
    Builtin.call engine function (arguments (← look (·.bag)))
  | assign key function arguments => do
    let value ← Builtin.call engine function (arguments (← look (·.bag)))
    editBag (Entries.insert key value)
    return value
  | set key value => do
    editBag fun bag => Entries.insert key (value bag) bag
    return done
  | unset key => do
    editBag (Entries.erase key)
    return done
  | get key => return (Entries.get? key (← look (·.bag))).getD .null
  | text s => return .text s
  | fail s => throw (.template s)
  | attempt step => do
    match ← outcome (step.perform engine) with
    | .ok value => return value
    | .error .overflow => throw .overflow
    | .error fault => return .text (faultText fault)
  | edit change => do
    editFrame change.apply
    return done
  | nested name target arguments => do
    let bag ← look (·.bag)
    Script.nested engine name (target bag) (arguments bag)
  | run name => return .text (← Script.run engine (← handle name))
  | respond output => do
    let sent ← Script.respond output
    return .ofOption (sent.map fun message => .int (Int64.ofNat message))
  | host name => do
    let output ← Script.run engine (← handle name)
    let _ ← Script.respond output
    return .text output

end Step

namespace Routine

/-- The texts of the values of all steps, one after another. -/
def render (engine : Engine) (steps : Routine) : Script String := do
  return String.join (← steps.mapM fun step => return (← step.perform engine).print)

/-- Renders templates that are found by their names, and the templates that they run, down to a
depth. -/
def engine (routines : String → Option Routine) : Nat → Engine
  | 0, _ => throw (.template "templates run too deep")
  | depth + 1, t => render (engine routines depth) ((routines t.name).getD [])

end Routine

end BotScript
