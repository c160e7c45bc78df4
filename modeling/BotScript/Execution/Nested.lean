import BotScript.Execution
import BotScript.Safety
import BotScript.Text.Blank
import BotScript.Containers
import BotScript.Value.Text

/-! Templates that run inside an execution.  Each nested template has a frame of its own and finds
its arguments in the data bag, and whatever happens in it, the caller's frame and arguments are back
afterwards. -/

namespace BotScript

/-- What renders a template. -/
abbrev Engine := Template → Script String

/-- Where the output of a nested template goes: to the member who triggered the execution, or to a
channel, which is the current one unless another is asked for. -/
inductive Target
  | member
  | channel (query : Option Value)

namespace Script

variable {α : Type}

/-- The key of the data bag under which a nested template finds its arguments. -/
def argumentsKey : String := "TemplateArgs"

/-- The key under which nested templates are counted. -/
def nestedKey : String := "exec_child"

/-- The entries of `after`, with the entry of a key as it is in `before`. -/
def restoreEntry (key : String) (before after : TextDict) : TextDict :=
  match Entries.get? key before with
  | some v => Entries.insert key v after
  | none => Entries.erase key after

theorem get?_restoreEntry_self (key : String) (before after : TextDict) :
    Entries.get? key (restoreEntry key before after) = Entries.get? key before := by
  unfold restoreEntry
  split <;> simp [*]

theorem get?_restoreEntry_of_ne {key other : String} (h : other ≠ key) (before after : TextDict) :
    Entries.get? other (restoreEntry key before after) = Entries.get? other after := by
  unfold restoreEntry
  split
  · exact Entries.get?_insert_of_ne h after
  · exact Entries.get?_erase_of_ne h after

/-- Runs a script in another frame.  The frame and the arguments of the caller are restored, also
after a fault. -/
def within (frame : Frame) (body : Script α) : Script α := fun env s =>
  let (result, after) := body env { s with frame := frame }
  (result, { after with frame := s.frame, bag := restoreEntry argumentsKey s.bag after.bag })

@[simp] theorem perform_within (frame : Frame) (x : Script α) (env : Environment) (s : Session) :
    (within frame x).perform env s =
      let after := (x.perform env { s with frame := frame }).2
      ((x.perform env { s with frame := frame }).1,
        { after with frame := s.frame, bag := restoreEntry argumentsKey s.bag after.bag }) := rfl

/-- Renders a nested template between two marks in the log. -/
def body (engine : Engine) (t : Template) : Script String := do
  note (.began (← look (·.frame)))
  let output ← outcome (engine t)
  note (.ended (← look (·.frame)))
  ofExcept output

/-- Runs a template in the current frame. -/
def run (engine : Engine) (t : Template) : Script String := do
  editFrame fun f => { f with template := some t }
  engine t

/-- Delivers output from the current frame, unless there is nothing to see in it and nothing to
react to.  The answer is the number of the message. -/
def respond (output : String) : Script (Option Nat) := do
  let frame ← look (·.frame)
  if isAllBlank output && frame.reactions.isEmpty then pure none
  else call (.sendResponse frame output)

/-- The channel for a target, and whether the output is sent as a direct message there. -/
def route (target : Target) : Script (Channel × Bool) := do
  let frame ← look (·.frame)
  match target with
  | .member =>
    let trigger ← ask (·.trigger)
    if trigger.origin = .leave then throw (.invalid .messageOnLeave)
    match frame.sendInDirect, frame.channel with
    | true, some channel => pure (channel, true)
    | _, _ =>
      let member ← orMissing .triggerMember trigger.member
      let channel ← call (.openDirect member.user)
      pure (channel, frame.sendInDirect)
  | .channel none =>
    let channel ← orMissing .channel frame.channel
    pure (channel, frame.sendInDirect)
  | .channel (some query) =>
    let channel ← orMissing (.channelMatching query.print) (← ask (·.host.channel query))
    pure (channel, false)

/-- What a nested template finds as its arguments: nothing, the only one, or the map of keys and
values in turn.  The data bag itself is refused, and so is a map that is too deep or holds it. -/
def nestedArguments (limits : Limits) (bag : TextDict) (arguments : List Value) :
    Except Fault Value :=
  match arguments with
  | [] => .ok .null
  | [single] =>
    match single.dereference with
    | some (.textDict entries) =>
      if Value.equalNamed entries bag then .error (.unsafeArguments .wholeBag) else .ok single
    | _ => .ok single
  | _ =>
    match TextDict.ofArguments arguments with
    | .ok entries =>
      if Safety.isSafe bag limits.mapDepth 0 (.textDict entries) then .ok (.textDict entries)
      else .error (.unsafeArguments .deepOrBag)
    | .error mistake => .error (.invalid mistake)

/-- Checks whether a nested template may run, and gives it with the frame that it runs in. -/
def prepare (name : String) (target : Target) : Script (Template × Frame) := do
  let limits ← ask (·.limits)
  demand (.calls nestedKey limits.nestedCalls)
  if name.isEmpty then throw (.invalid .noTemplateName)
  if ← look (·.frame.isNested) then throw .nested
  let template ← orMissing (.template name) (← ask (·.host.template name))
  let (channel, direct) ← route target
  return (template, .nested channel template direct)

/-- Puts the arguments where a nested template finds them. -/
def expose (arguments : List Value) : Script Unit := do
  let limits ← ask (·.limits)
  let value ← ofExcept (nestedArguments limits (← look (·.bag)) arguments)
  editBag (Entries.insert argumentsKey value)

/-- Runs a template in a nested frame and delivers its output.  The answer is the number of the
message as a text, which is empty if there is no message. -/
def nested (engine : Engine) (name : String) (target : Target) (arguments : List Value) :
    Script Value := do
  let (template, frame) ← prepare name target
  within frame do
    expose arguments
    let output ← body engine template
    let sent ← respond output
    return .text ((sent.map toString).getD "")

end Script

end BotScript
