/-! Frames: where the output of a template goes, and what is to happen to it there. -/

namespace BotScript

/-- A channel that messages can be sent to. -/
structure Channel where
  id : Nat
  name : String
  isDirect : Bool
  deriving DecidableEq

/-- A template, known by its name. -/
structure Template where
  name : String
  deriving DecidableEq

/-- The scope in which a template runs. -/
structure Frame where
  channel : Option Channel
  template : Option Template
  isNested : Bool
  sendInDirect : Bool
  deleteResponse : Bool
  deleteDelay : Nat
  mentionEveryone : Bool
  mentionHere : Bool
  mentionRoles : List Nat
  reactions : List String
  deriving DecidableEq

namespace Frame

/-- The seconds after which a message is deleted unless something else is said. -/
def defaultDeleteDelay : Nat := 10

/-- The frame in which an execution starts: nothing is to happen to its output. -/
def root (channel : Option Channel) : Frame where
  channel := channel
  template := none
  isNested := false
  sendInDirect := false
  deleteResponse := false
  deleteDelay := defaultDeleteDelay
  mentionEveryone := false
  mentionHere := false
  mentionRoles := []
  reactions := []

/-- The frame in which a nested template starts.  Nothing is to happen to its output either. -/
def nested (channel : Channel) (template : Template) (sendInDirect : Bool) : Frame :=
  { root (some channel) with
    template := some template, isNested := true, sendInDirect := sendInDirect }

/-- Adds a role to those that are mentioned, if it is not among them. -/
def mentionRole (f : Frame) (role : Nat) : Frame :=
  if f.mentionRoles.contains role then f
  else { f with mentionRoles := f.mentionRoles ++ [role] }

end Frame

end BotScript
