import BotScript.Builtin
import BotScript.Proofs.Powers

/-! The powers of the functions that scripts call.  `Builtin.powers` lists for each function the
budgets that it charges, what it asks of the platform, the patterns that it compiles and what it
changes in the frame, and `Builtin.run_confined` says that no function but the two that run nested
templates does anything else. -/

namespace BotScript

open Script

/-- The powers of a function that changes messages or roles: it charges the shared budget. -/
def Powers.shared (calls : Call → Prop) : Powers :=
  { Powers.none with demands := fun d => d = .apiCall, calls := calls }

/-- The powers of a function that charges a key of its own for each reaction. -/
def Powers.reacting (key : String) (calls : Call → Prop) : Powers :=
  { Powers.none with demands := fun d => d = .calls key maxReactions, calls := calls }

/-- The powers of a function that compiles the pattern of its first argument. -/
def Powers.compiling (arguments : List Value) : Powers :=
  { Powers.none with patterns := fun source => source = (argument arguments 0).toText }

/-- What a function may do besides looking.  The two functions that run nested templates can do
whatever those do, and are not covered. -/
def Builtin.powers (arguments : List Value) : Builtin → Powers
  | .addMessageReactions =>
    .reacting "add_reaction_message" fun c => ∃ channel message emoji,
      c = .addReaction channel message emoji
  | .addReactions =>
    .reacting "add_reaction_trigger" fun c => ∃ channel message emoji,
      c = .addReaction channel message emoji
  | .addResponseReactions =>
    { Powers.reacting "add_reaction_response" fun _ => False with
      edits := fun f g => ∃ reactions, g = { f with reactions := reactions } }
  | .deleteMessage =>
    .shared fun c => (∃ channel message, c = .deleteMessage channel message) ∨
      ∃ guild channel message due, c = .scheduleDeleteMessage guild channel message due
  | .deleteMessageReaction =>
    .reacting "del_reaction_message" fun c => ∃ channel message user emoji,
      c = .removeReaction channel message user emoji
  | .deleteResponse =>
    { Powers.none with
      edits := fun f g => ∃ on delay, g = { f with deleteResponse := on, deleteDelay := delay } }
  | .deleteTrigger =>
    { Powers.none with
      calls := fun c => ∃ guild channel message due,
        c = .scheduleDeleteMessage guild channel message due }
  | .editMessage => .shared fun c => ∃ channel message text, c = .editMessage channel message text
  | .giveRoleID =>
    .shared fun c => (∃ guild user role, c = .addRole guild user role) ∨
      ∃ guild user role due, c = .scheduleAddRole guild user role due
  | .hasPermissions =>
    { Powers.none with calls := fun c => ∃ guild channel user, c = .permissions guild channel user }
  | .mentionEveryone =>
    { Powers.none with edits := fun f g => g = { f with mentionEveryone := true } }
  | .mentionHere => { Powers.none with edits := fun f g => g = { f with mentionHere := true } }
  | .mentionRoleID => { Powers.none with edits := fun f g => ∃ role, g = f.mentionRole role }
  | .reFind | .reFindAll | .reFindAllSubmatches | .reReplace | .reSplit => .compiling arguments
  | .sendMessage => .shared fun c => ∃ channel text, c = .sendMessage channel text
  | .setRoles =>
    { Powers.none with
      demands := fun d => d = .apiCall ∨ ∃ user, d = .calls (setRolesKey user) 1
      calls := fun c => ∃ guild user role,
        c = .addRole guild user role ∨ c = .removeRole guild user role }
  | .sleep => { Powers.none with demands := fun d => ∃ seconds, d = .sleep seconds }
  | .sort => { Powers.none with demands := fun d => d = .tieredCalls "sort" 1 3 }
  | .takeRoleID =>
    .shared fun c => (∃ guild user role, c = .removeRole guild user role) ∨
      ∃ guild user role due, c = .scheduleRemoveRole guild user role due
  | _ => .none

namespace Script

variable {p : Powers}

/-! ### Reading arguments -/

theorem channelOf_confined (query : Value) : Confined p (channelOf query) := by
  unfold channelOf
  split
  · exact .bind (.look _) fun _ => .bind (.orMissing _ _) fun _ => .pure _
  · exact .bind (.ask _) fun _ => .bind (.orMissing _ _) fun _ => .pure _

theorem triggerMessage_confined : Confined p triggerMessage := by
  refine .bind (.ask _) fun trigger => ?_
  split
  · exact .pure _
  · exact .throw rfl

theorem after_confined (delay : Duration) : Confined p (after delay) := by
  refine .bind .now fun start => ?_
  split
  · exact .pure _
  · exact .throw rfl

theorem afterSeconds_confined (seconds : Nat) : Confined p (afterSeconds seconds) :=
  .bind (.orMistake _) fun _ => after_confined _

/-! ### Messages -/

theorem sendMessage_charging (arguments : List Value) :
    Charging (· = .apiCall) (fun c => ∃ channel text, c = .sendMessage channel text) false
      (sendMessage arguments) := by
  refine .demand rfl (.looking (channelOf_confined _) fun channel => .asking ?_)
  simp only
  split
  · exact .pure _
  · exact .bind (.call ⟨_, _, rfl⟩) fun _ => .pure _

theorem editMessage_charging (arguments : List Value) :
    Charging (· = .apiCall) (fun c => ∃ channel message text, c = .editMessage channel message text)
      false (editMessage arguments) :=
  .looking (.orMistake _) fun _ => .demand rfl <| .looking (channelOf_confined _) fun _ =>
    .looking (.orMistake _) fun _ => .asking (.bind (.call ⟨_, _, _, rfl⟩) fun _ => .pure _)

theorem deleteMessage_charging (arguments : List Value) :
    Charging (· = .apiCall) (fun c => (∃ channel message, c = .deleteMessage channel message) ∨
      ∃ guild channel message due, c = .scheduleDeleteMessage guild channel message due) false
      (deleteMessage arguments) := by
  refine .looking (.orMistake _) fun _ => .demand rfl <| .looking (channelOf_confined _)
    fun channel => .looking (.orMistake _) fun message => .looking (.ask _) fun limits =>
    .asking ?_
  simp only
  split
  · exact .bind (.call (.inl ⟨_, _, rfl⟩)) fun _ => .pure _
  · exact .bind (afterSeconds_confined _) fun due => .bind (.ask _) fun guild =>
      .bind (.call (.inr ⟨_, _, _, _, rfl⟩)) fun _ => .pure _

/-! ### Roles -/

theorem changeRole_charging {calls : Call → Prop} {function : String} {give : Bool}
    (arguments : List Value)
    (hNow : ∀ guild user role,
      calls (if give then .addRole guild user role else .removeRole guild user role))
    (hLater : ∀ guild user role due,
      calls (if give then .scheduleAddRole guild user role due
        else .scheduleRemoveRole guild user role due)) :
    Charging (· = .apiCall) calls false (changeRole function give arguments) := by
  refine .looking (.orMistake _) fun _ => .demand rfl <| .looking (.orMistake _)
    fun user => .looking (.orMistake _) fun role => .looking (.ask _) fun guild => .asking ?_
  simp only
  split
  · refine .bind (after_confined _) fun due => ?_
    cases give with
    | true => exact .bind (.call (hLater guild user role due)) fun _ => .pure _
    | false => exact .bind (.call (hLater guild user role due)) fun _ => .pure _
  · cases give with
    | true => exact .bind (.call (hNow guild user role)) fun _ => .pure _
    | false => exact .bind (.call (hNow guild user role)) fun _ => .pure _

theorem giveRole_charging (arguments : List Value) :
    Charging (· = .apiCall) (fun c => (∃ guild user role, c = .addRole guild user role) ∨
      ∃ guild user role due, c = .scheduleAddRole guild user role due) false
      (giveRole arguments) :=
  changeRole_charging arguments (fun _ _ _ => .inl ⟨_, _, _, rfl⟩)
    fun _ _ _ _ => .inr ⟨_, _, _, _, rfl⟩

theorem takeRole_charging (arguments : List Value) :
    Charging (· = .apiCall) (fun c => (∃ guild user role, c = .removeRole guild user role) ∨
      ∃ guild user role due, c = .scheduleRemoveRole guild user role due) false
      (takeRole arguments) :=
  changeRole_charging arguments (fun _ _ _ => .inl ⟨_, _, _, rfl⟩)
    fun _ _ _ _ => .inr ⟨_, _, _, _, rfl⟩

theorem setRoles_charging (arguments : List Value) :
    Charging (fun d => d = .apiCall ∨ ∃ user, d = .calls (setRolesKey user) 1)
      (fun c => ∃ guild user role, c = .addRole guild user role ∨ c = .removeRole guild user role)
      false (setRoles arguments) := by
  refine .looking (.orMistake _) fun _ => .looking (.orMistake _) fun user =>
    .demand (.inr ⟨user, rfl⟩) <| .demand (.inl rfl) <| .looking (.orMistake _) fun wanted =>
    .looking (.ask _) fun _ => .looking (.orMissing _ _) fun member => .looking (.ask _)
    fun guild => .asking (.bind (.forM (fun role => .call ?_) _) fun _ =>
      .bind (.forM (fun role => .call ?_) _) fun _ => .pure _)
  · exact ⟨guild, user, role, .inl rfl⟩
  · exact ⟨guild, user, role, .inr rfl⟩

theorem hasRole_confined (arguments : List Value) : Confined p (hasRole arguments) :=
  .bind (.ask _) fun _ => .pure _

theorem hasPermissions_confined (arguments : List Value) :
    Confined (Builtin.powers arguments .hasPermissions) (hasPermissions arguments) := by
  simp only [hasPermissions]
  split
  · exact .pure _
  · refine .bind (.ask _) fun member => .bind (.look _) fun channel => ?_
    split
    · exact .bind (.ask _) fun _ => .bind (.call ⟨_, _, _, rfl⟩) fun _ => .pure _
    · exact .pure _

/-! ### Responses and reactions -/

theorem deleteResponse_confined (arguments : List Value) :
    Confined (Builtin.powers arguments .deleteResponse) (deleteResponse arguments) :=
  .bind (.ask _) fun _ => .bind (.editFrame fun _ => ⟨true, _, rfl⟩) fun _ => .pure _

theorem deleteTrigger_confined (arguments : List Value) :
    Confined (Builtin.powers arguments .deleteTrigger) (deleteTrigger arguments) :=
  .bind triggerMessage_confined fun _ => .bind (.ask _) fun _ =>
    .bind (afterSeconds_confined _) fun _ => .bind (.ask _) fun _ =>
    .bind (.call ⟨_, _, _, _, rfl⟩) fun _ => .pure _

theorem mentionRole_confined (arguments : List Value) :
    Confined (Builtin.powers arguments .mentionRoleID) (mentionRole arguments) :=
  .bind (.orMistake _) fun role => .bind (.editFrame fun _ => ⟨role, rfl⟩) fun _ => .pure _

theorem eachReaction_confined {key : String} {emojis : List String} {act : String → Script Unit}
    (hDemand : p.demands (.calls key maxReactions)) (hAct : ∀ emoji, Confined p (act emoji)) :
    Confined p (eachReaction key emojis act) :=
  .bind (.forM (fun emoji => .bind (.demand hDemand) fun _ => hAct emoji) _) fun _ => .pure _

theorem addReactions_confined (arguments : List Value) :
    Confined (Builtin.powers arguments .addReactions) (addReactions arguments) :=
  .bind triggerMessage_confined fun _ =>
    eachReaction_confined rfl fun _ => .call ⟨_, _, _, rfl⟩

theorem addResponseReactions_confined (arguments : List Value) :
    Confined (Builtin.powers arguments .addResponseReactions) (addResponseReactions arguments) :=
  eachReaction_confined rfl fun _ => .editFrame fun _ => ⟨_, rfl⟩

theorem addMessageReactions_confined (arguments : List Value) :
    Confined (Builtin.powers arguments .addMessageReactions) (addMessageReactions arguments) :=
  .bind (.orMistake _) fun _ => .bind (channelOf_confined _) fun _ => .bind (.orMistake _) fun _ =>
    eachReaction_confined rfl fun _ => .call ⟨_, _, _, rfl⟩

theorem deleteMessageReaction_confined (arguments : List Value) :
    Confined (Builtin.powers arguments .deleteMessageReaction) (deleteMessageReaction arguments) :=
  .bind (.orMistake _) fun _ => .bind (channelOf_confined _) fun _ => .bind (.orMistake _) fun _ =>
    .bind (.orMistake _) fun _ => eachReaction_confined rfl fun _ => .call ⟨_, _, _, _, rfl⟩

/-! ### Values and patterns -/

theorem drawInt_confined (arguments : List Value) : Confined p (drawInt arguments) := by
  have hDraw : ∀ start stop : Int, Confined p (do
      if stop ≤ start then throw (.invalid .emptyBounds)
      let drawn ← draw (stop - start).toNat
      return .int (Int64.ofInt (start + drawn)) : Script Value) := by
    intro start stop
    simp only
    split
    · exact .bind (.throw rfl) fun _ => .bind (.draw _) fun _ => .pure _
    · exact .bind (.draw _) fun _ => .pure _
  unfold drawInt
  split
  · exact .bind (.throw rfl) fun _ => hDraw _ _
  · exact hDraw _ _
  · exact hDraw _ _

theorem sortList_confined (arguments : List Value) :
    Confined (Builtin.powers arguments .sort) (sortList arguments) := by
  refine .bind (.demand rfl) fun _ => ?_
  split
  · exact .bind (.orMistake _) fun _ => .bind (.orMistake _) fun _ => .pure _
  · exact .throw rfl
  · exact .pure _

theorem withPattern_confined (function : String) (arguments : List Value)
    (f : Pattern → String → Value) :
    Confined (.compiling arguments) (withPattern function arguments f) :=
  .bind (.orMistake _) fun _ => .bind (.compile rfl) fun _ => .pure _

end Script

/-- No function does more than its powers allow, the two that run nested templates apart. -/
theorem Builtin.run_confined (engine : Engine) {b : Builtin} (hTemplate : b ≠ .sendTemplate)
    (hTemplateDM : b ≠ .sendTemplateDM) (arguments : List Value) :
    Confined (b.powers arguments) (b.run engine arguments) := by
  cases b with
  | addMessageReactions => exact addMessageReactions_confined arguments
  | addReactions => exact addReactions_confined arguments
  | addResponseReactions => exact addResponseReactions_confined arguments
  | deleteMessage => exact (deleteMessage_charging arguments).confined
  | deleteMessageReaction => exact deleteMessageReaction_confined arguments
  | deleteResponse => exact deleteResponse_confined arguments
  | deleteTrigger => exact deleteTrigger_confined arguments
  | editMessage => exact (editMessage_charging arguments).confined
  | execCounters => exact .bind (.look _) fun _ => .pure _
  | giveRoleID => exact (giveRole_charging arguments).confined
  | hasPermissions => exact hasPermissions_confined arguments
  | hasRoleID => exact hasRole_confined arguments
  | mentionEveryone => exact .bind (.editFrame fun _ => rfl) fun _ => .pure _
  | mentionHere => exact .bind (.editFrame fun _ => rfl) fun _ => .pure _
  | mentionRoleID => exact mentionRole_confined arguments
  | randInt => exact drawInt_confined arguments
  | reFind | reFindAll | reFindAllSubmatches | reSplit =>
    simp only [run, findMatch, findMatches, findRows, splitAtMatches]
    exact withPattern_confined _ arguments _
  | reReplace => exact .bind (.orMistake _) fun _ => withPattern_confined _ arguments _
  | sendMessage => exact (sendMessage_charging arguments).confined
  | sendTemplate => exact absurd rfl hTemplate
  | sendTemplateDM => exact absurd rfl hTemplateDM
  | setRoles => exact (setRoles_charging arguments).confined
  | sleep => exact .bind (.sleep ⟨_, rfl⟩) fun _ => .pure _
  | sort => exact sortList_confined arguments
  | takeRoleID => exact (takeRole_charging arguments).confined
  | dict | hexToDecimal | isIn | isInFolded | sdict => exact .orMistake _
  | cslice | json | kindOf | reQuoteMeta | sha256 | toByte | toDuration | toFloat | toHexInt | toInt
  | toInt64 | toRune | toString => exact .pure _

end BotScript
