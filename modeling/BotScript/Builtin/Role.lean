import BotScript.Builtin.Access

/-! Functions that change the roles of members, and that ask for roles and permissions. -/

namespace BotScript.Script

/-- Gives a user a role or takes one, through the schedule if the delay is longer than a second. -/
def changeRole (function : String) (give : Bool) (arguments : List Value) : Script Value := do
  orMistake (requireArguments function arguments 2)
  demand .apiCall
  let user ← orMistake (idOf function (argument arguments 0))
  let role ← orMistake (idOf function (argument arguments 1))
  let delay := roleDelay (givenArgument? arguments 2)
  let guild ← ask (·.trigger.guild)
  if Duration.nanosPerSecond < delay.nanos then
    let due ← after delay
    if give then call (.scheduleAddRole guild user role due)
    else call (.scheduleRemoveRole guild user role due)
  else if give then call (.addRole guild user role)
  else call (.removeRole guild user role)
  return done

def giveRole (arguments : List Value) : Script Value := changeRole "giveRoleID" true arguments

def takeRole (arguments : List Value) : Script Value := changeRole "takeRoleID" false arguments

/-- The key under which the replacements of a user's roles are counted. -/
def setRolesKey (user : Nat) : String := "set_roles" ++ toString user

/-- Replaces the roles of a member, once for each user.  Missing roles are added first, and then
those that are not wanted are removed. -/
def setRoles (arguments : List Value) : Script Value := do
  orMistake (requireArguments "setRoles" arguments 1)
  let user ← orMistake (idOf "setRoles" (argument arguments 0))
  demand (.calls (setRolesKey user) 1)
  demand .apiCall
  let wanted ← orMistake ((flatten true (arguments.drop 1)).mapM (idOf "setRoles"))
  let member ← orMissing (.member user) (← ask (·.host.member user))
  let guild ← ask (·.trigger.guild)
  (wanted.filter fun role => !member.roles.contains role).forM fun role =>
    call (.addRole guild user role)
  (member.roles.filter fun role => !wanted.contains role).forM fun role =>
    call (.removeRole guild user role)
  return done

/-- Whether the triggering member has a role. -/
def hasRole (arguments : List Value) : Script Value := do
  let role := (argument arguments 0).toInt.toInt
  let member ← ask (·.trigger.member)
  return .bool (member.any fun m => m.roles.any fun r => decide ((r : Int) = role))

/-- Whether the triggering member has all permissions of some bits in the current channel. -/
def hasPermissions (arguments : List Value) : Script Value := do
  let wanted := (argument arguments 0).toInt.toInt
  if wanted < 0 then return .bool false
  match ← ask (·.trigger.member), ← look (·.frame.channel) with
  | some member, some channel =>
    let bits ← call (.permissions (← ask (·.trigger.guild)) channel.id member.user)
    return .bool (bits &&& wanted.toNat == wanted.toNat)
  | _, _ => return .bool false

end BotScript.Script
