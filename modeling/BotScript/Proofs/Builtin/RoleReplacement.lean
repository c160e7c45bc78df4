import BotScript.Proofs.Builtin.RoleDelay
import Mathlib.Data.Finset.Basic
import Mathlib.Data.List.Count

/-! Replacing the roles of a member.  A call compares the roles that are wanted with those that the
member had before it, adds what is lacking and removes what is not wanted, and does so once for each
user in an execution.  The calls of the platform lead to the roles that are wanted; but a wanted
role that is lacking is added as often as it is listed.  `replaces_once` says when the calls are
none too many, and that no later call for the user makes any. -/

namespace BotScript

open Script

/-! ### Roles after calls -/

/-- The roles of a user after a call of the platform. -/
def Call.rolesAfter (guild user : Nat) (roles : Finset Nat) : Call → Finset Nat
  | .addRole g u role => if g = guild ∧ u = user then insert role roles else roles
  | .removeRole g u role => if g = guild ∧ u = user then roles.erase role else roles
  | _ => roles

/-- The roles of a user after calls of the platform, the first call first. -/
def rolesAfter (guild user : Nat) (roles : Finset Nat) (made : List Call) : Finset Nat :=
  made.foldl (Call.rolesAfter guild user) roles

/-- Whether each call changes the roles of a user. -/
def ChangesEach (guild user : Nat) : Finset Nat → List Call → Prop
  | _, [] => True
  | roles, c :: rest =>
    c.rolesAfter guild user roles ≠ roles ∧
      ChangesEach guild user (c.rolesAfter guild user roles) rest

section Roles

variable {guild user : Nat} {roles : Finset Nat} {listed : List Nat} {made more : List Call}

theorem Call.rolesAfter_change (give : Bool) (role : Nat) :
    (Call.change give guild user role).rolesAfter guild user roles =
      if give then insert role roles else roles.erase role := by
  cases give with
  | true => exact if_pos ⟨rfl, rfl⟩
  | false => exact if_pos ⟨rfl, rfl⟩

theorem Call.mem_rolesAfter_change {give : Bool} {role other : Nat} :
    other ∈ (Call.change give guild user role).rolesAfter guild user roles ↔
      if other = role then give = true else other ∈ roles := by
  rw [rolesAfter_change]
  cases give with
  | true => by_cases h : other = role <;> simp [h]
  | false => by_cases h : other = role <;> simp [h]

/-- A change of a role changes something if and only if the role is not yet given or taken. -/
theorem Call.rolesAfter_change_ne {give : Bool} {role : Nat} :
    (Call.change give guild user role).rolesAfter guild user roles ≠ roles ↔
      (role ∈ roles ↔ give = false) := by
  rw [rolesAfter_change]
  cases give with
  | true => simp
  | false => simp

theorem rolesAfter_append :
    rolesAfter guild user roles (made ++ more) =
      rolesAfter guild user (rolesAfter guild user roles made) more := List.foldl_append

/-- After changes of some roles exactly these are given or taken. -/
theorem mem_rolesAfter_changes {give : Bool} {other : Nat} :
    other ∈ rolesAfter guild user roles (listed.map (Call.change give guild user)) ↔
      if other ∈ listed then give = true else other ∈ roles := by
  induction listed generalizing roles with
  | nil => simp [rolesAfter]
  | cons role rest ih =>
    have hRest := @ih ((Call.change give guild user role).rolesAfter guild user roles)
    unfold rolesAfter at hRest ⊢
    rw [List.map_cons, List.foldl_cons, hRest, Call.mem_rolesAfter_change]
    by_cases hFirst : other = role
    · simp [hFirst]
    · simp [hFirst]

theorem changesEach_append :
    ChangesEach guild user roles (made ++ more) ↔
      ChangesEach guild user roles made ∧
        ChangesEach guild user (rolesAfter guild user roles made) more := by
  induction made generalizing roles with
  | nil => simp [ChangesEach, rolesAfter]
  | cons c rest ih =>
    have hRest := @ih (c.rolesAfter guild user roles)
    unfold rolesAfter at hRest ⊢
    rw [List.cons_append, ChangesEach, ChangesEach, List.foldl_cons, hRest, and_assoc]

/-- Changes all change something if and only if no role is listed twice and none of them is given or
taken before. -/
theorem changesEach_changes {give : Bool} :
    ChangesEach guild user roles (listed.map (Call.change give guild user)) ↔
      listed.Nodup ∧ ∀ role ∈ listed, role ∈ roles ↔ give = false := by
  induction listed generalizing roles with
  | nil => simp [ChangesEach]
  | cons role rest ih =>
    rw [List.map_cons, ChangesEach, Call.rolesAfter_change_ne, ih, List.nodup_cons,
      List.forall_mem_cons]
    simp only [Call.mem_rolesAfter_change]
    constructor
    · rintro ⟨hRole, hNodup, hRest⟩
      -- A role that comes again has been changed by then.
      have hFirst : role ∉ rest := by
        intro hMem
        have hAgain := hRest role hMem
        rw [if_pos rfl] at hAgain
        cases give <;> simp at hAgain
      refine ⟨⟨hFirst, hNodup⟩, hRole, fun r hr => ?_⟩
      have hOther := hRest r hr
      have hNe : r ≠ role := fun heq => hFirst (heq ▸ hr)
      rw [if_neg hNe] at hOther
      exact hOther
    · rintro ⟨⟨hFirst, hNodup⟩, hRole, hRest⟩
      refine ⟨hRole, hNodup, fun r hr => ?_⟩
      have hNe : r ≠ role := fun heq => hFirst (heq ▸ hr)
      rw [if_neg hNe]
      exact hRest r hr

/-- Changes of some roles give or take a role as often as it is listed. -/
theorem count_changes (give other : Bool) (role : Nat) :
    (listed.map (Call.change give guild user)).count (.change other guild user role) =
      if give = other then listed.count role else 0 := by
  by_cases hSame : give = other
  · subst hSame
    have hInjective : Function.Injective (Call.change give guild user) := by
      intro first second h
      cases give <;> cases h <;> rfl
    rw [if_pos rfl, List.count_map_of_injective _ _ hInjective]
  · rw [if_neg hSame, List.count_eq_zero, List.mem_map]
    rintro ⟨first, -, h⟩
    cases give <;> cases other <;> first | exact hSame rfl | exact nomatch h

end Roles

/-! ### Replacements -/

/-- The wanted roles that a member lacks, as often as they are wanted. -/
def lackedRoles (roles wanted : List Nat) : List Nat :=
  wanted.filter fun role => !roles.contains role

/-- The roles of a member that are not wanted. -/
def unwantedRoles (roles wanted : List Nat) : List Nat :=
  roles.filter fun role => !wanted.contains role

/-- The calls that replace the roles of a user. -/
def replacement (guild user : Nat) (roles wanted : List Nat) : List Call :=
  (lackedRoles roles wanted).map (.addRole guild user) ++
    (unwantedRoles roles wanted).map (.removeRole guild user)

/-- Calls that replace the roles of a user by those that are wanted, with none too many: each role
that is lacking is added once, then each that is not wanted is removed once, and every call changes
something. -/
structure Replaces (guild user : Nat) (roles wanted : List Nat) (made : List Call) : Prop where
  shape : ∃ added removed : List Nat,
    made = added.map (.addRole guild user) ++ removed.map (.removeRole guild user)
  added : ∀ role, made.count (.addRole guild user role) =
    if role ∈ wanted ∧ role ∉ roles then 1 else 0
  removed : ∀ role, made.count (.removeRole guild user role) =
    if role ∈ roles ∧ role ∉ wanted then 1 else 0
  outcome : rolesAfter guild user roles.toFinset made = wanted.toFinset
  effective : ChangesEach guild user roles.toFinset made

section Replacements

variable {guild user : Nat} {roles wanted : List Nat}

theorem mem_lackedRoles {role : Nat} :
    role ∈ lackedRoles roles wanted ↔ role ∈ wanted ∧ role ∉ roles := by
  simp [lackedRoles]

theorem mem_unwantedRoles {role : Nat} :
    role ∈ unwantedRoles roles wanted ↔ role ∈ roles ∧ role ∉ wanted := by
  simp [unwantedRoles]

theorem replacement_eq :
    replacement guild user roles wanted =
      (lackedRoles roles wanted).map (Call.change true guild user) ++
        (unwantedRoles roles wanted).map (Call.change false guild user) := rfl

/-- A replacement adds each role as often as it is lacking, and removes each that is not wanted. -/
theorem count_replacement (give : Bool) (role : Nat) :
    (replacement guild user roles wanted).count (.change give guild user role) =
      (if give then lackedRoles roles wanted else unwantedRoles roles wanted).count role := by
  rw [replacement_eq, List.count_append, count_changes, count_changes]
  cases give with
  | true => simp
  | false => simp

/-- A replacement leads to the roles that are wanted, however often they are listed. -/
theorem rolesAfter_replacement :
    rolesAfter guild user roles.toFinset (replacement guild user roles wanted) =
      wanted.toFinset := by
  ext role
  rw [replacement_eq, rolesAfter_append, mem_rolesAfter_changes, mem_rolesAfter_changes]
  simp only [List.mem_toFinset, mem_lackedRoles, mem_unwantedRoles]
  by_cases hWanted : role ∈ wanted
  · by_cases hRole : role ∈ roles <;> simp [hWanted, hRole]
  · by_cases hRole : role ∈ roles <;> simp [hWanted, hRole]

/-- Every call of a replacement changes something if and only if no role is added twice. -/
theorem changesEach_replacement (hRoles : roles.Nodup) :
    ChangesEach guild user roles.toFinset (replacement guild user roles wanted) ↔
      (lackedRoles roles wanted).Nodup := by
  rw [replacement_eq, changesEach_append, changesEach_changes, changesEach_changes]
  constructor
  · intro h
    exact h.1.1
  · intro hNodup
    refine ⟨⟨hNodup, fun role hRole => ?_⟩, hRoles.filter _, fun role hRole => ?_⟩
    · rw [List.mem_toFinset]
      simp [(mem_lackedRoles.mp hRole).2]
    · obtain ⟨hHad, hUnwanted⟩ := mem_unwantedRoles.mp hRole
      rw [mem_rolesAfter_changes, if_neg fun hLacked => hUnwanted (mem_lackedRoles.mp hLacked).1,
        List.mem_toFinset]
      simp [hHad]

/-- The calls of a replacement are none too many if and only if no wanted role that the member lacks
is listed twice. -/
theorem replaces_iff (hRoles : roles.Nodup) :
    Replaces guild user roles wanted (replacement guild user roles wanted) ↔
      (lackedRoles roles wanted).Nodup := by
  constructor
  · intro h
    exact (changesEach_replacement hRoles).mp h.effective
  · intro hNodup
    have hUnwanted : (unwantedRoles roles wanted).Nodup := hRoles.filter _
    refine ⟨⟨_, _, rfl⟩, fun role => ?_, fun role => ?_, rolesAfter_replacement,
      (changesEach_replacement hRoles).mpr hNodup⟩
    · refine (count_replacement true role).trans ?_
      rw [if_pos rfl, hNodup.count]
      simp only [mem_lackedRoles]
    · refine (count_replacement false role).trans ?_
      rw [if_neg Bool.false_ne_true, hUnwanted.count]
      simp only [mem_unwantedRoles]

end Replacements

/-! ### One call -/

namespace Script

/-- Adds the roles that a member lacks and removes those that are not wanted. -/
def replaceRoles (user : Nat) (wanted : List Nat) (member : Member) : Script Value := do
  let guild ← ask (·.trigger.guild)
  (lackedRoles member.roles wanted).forM fun role => call (.addRole guild user role)
  (unwantedRoles member.roles wanted).forM fun role => call (.removeRole guild user role)
  return done

/-- Reads the roles that are wanted, and replaces those of a member. -/
def readAndReplace (user : Nat) (arguments : List Value) : Script Value := do
  let wanted ← orMistake ((flatten true (arguments.drop 1)).mapM (idOf "setRoles"))
  let member ← orMissing (.member user) (← ask (·.host.member user))
  replaceRoles user wanted member

/-- The demand that lets each user's roles be replaced once. -/
def replaceDemand (user : Nat) : Demand := .calls (setRolesKey user) 1

section Steps

variable {arguments : List Value} {user : Nat} {env : Environment} {s : Session}

/-- The first argument is there if it names a user. -/
theorem length_of_idOf {function : String} (h : idOf function (argument arguments 0) = .ok user) :
    1 ≤ arguments.length := by
  cases arguments with
  | nil => exact nomatch h
  | cons v rest => exact Nat.le_add_left _ _

theorem perform_setRoles (hUser : idOf "setRoles" (argument arguments 0) = .ok user) :
    (setRoles arguments).perform env s =
      (do
        demand (replaceDemand user)
        demand .apiCall
        readAndReplace user arguments : Script Value).perform env s := by
  unfold setRoles
  rw [requireArguments_of_le (length_of_idOf hUser), hUser]
  rfl

/-- A script that gives `a` and asks the platform for `calls`, unless one of them fails. -/
def Attempts {α : Type} (env : Environment) (s : Session) (x : Script α) (a : α)
    (calls : List Call) : Prop :=
  ∃ new, (x.perform env s).2.log = new ++ s.log ∧
    ((∃ failed fault, .called failed false ∈ new ∧ (x.perform env s).1 = .error fault) ∨
      ((x.perform env s).1 = .ok a ∧ callsOf new = calls))

section Attempts

variable {α β : Type}

theorem attempts_pure (a : α) : Attempts env s (pure a) a [] :=
  ⟨[], rfl, .inr ⟨rfl, rfl⟩⟩

theorem attempts_ask (f : Environment → α) : Attempts env s (ask f) (f env) [] :=
  ⟨[], rfl, .inr ⟨rfl, rfl⟩⟩

theorem attempts_orMistake {r : Except Mistake α} {a : α} (h : r = .ok a) :
    Attempts env s (orMistake r) a [] := by
  subst h
  exact attempts_pure a

theorem attempts_orMissing (what : Missing) {found : Option α} {a : α} (h : found = some a) :
    Attempts env s (orMissing what found) a [] := by
  subst h
  exact attempts_pure a

theorem attempts_call (c : Call) {reply : c.Reply} (hReply : ∀ other : c.Reply, other = reply) :
    Attempts env s (call c) reply [c] := by
  refine ⟨[.called c (env.host.answer s.log c).toBool], rfl, ?_⟩
  rw [perform_call]
  rcases env.host.answer s.log c with fault | other
  · exact .inl ⟨c, fault, List.mem_cons_self, rfl⟩
  · rw [hReply other]
    exact .inr ⟨rfl, rfl⟩

theorem attempts_bind {x : Script α} {f : α → Script β} {a : α} {b : β} {first second : List Call}
    (hx : Attempts env s x a first) (hf : ∀ after, Attempts env after (f a) b second) :
    Attempts env s (x >>= f) b (first ++ second) := by
  obtain ⟨new, hLog, hFirst⟩ := hx
  unfold Attempts
  rw [perform_bind]
  rcases hPerform : x.perform env s with ⟨result, after⟩
  rw [hPerform] at hLog hFirst
  rcases hFirst with ⟨failed, fault, hFailed, hError⟩ | ⟨hOk, hCalls⟩
  · cases hError
    exact ⟨new, hLog, .inl ⟨failed, fault, hFailed, rfl⟩⟩
  · cases hOk
    obtain ⟨more, hMore, hSecond⟩ := hf after
    refine ⟨more ++ new, ?_, ?_⟩
    · show ((f a).perform env after).2.log = _
      rw [hMore, List.append_assoc, ← hLog]
    · rcases hSecond with ⟨failed, fault, hFailed, hError⟩ | ⟨hOk, hCallsMore⟩
      · exact .inl ⟨failed, fault, List.mem_append_left _ hFailed, hError⟩
      · refine .inr ⟨hOk, ?_⟩
        rw [callsOf_append, hCalls, hCallsMore]

/-- What asks nothing of the platform adds nothing to the calls that follow. -/
theorem attempts_quiet {x : Script α} {f : α → Script β} {a : α} {b : β} {calls : List Call}
    (hx : Attempts env s x a []) (hf : ∀ after, Attempts env after (f a) b calls) :
    Attempts env s (x >>= f) b calls := attempts_bind hx hf

theorem attempts_forM {c : Nat → Call} {f : Nat → Script PUnit}
    (hCalls : ∀ role after, Attempts env after (f role) PUnit.unit [c role]) (roles : List Nat) :
    Attempts env s (roles.forM f) PUnit.unit (roles.map c) := by
  induction roles generalizing s with
  | nil => exact attempts_pure PUnit.unit
  | cons role rest ih => exact attempts_bind (hCalls role s) fun after => ih

end Attempts

theorem replaceRoles_attempts (wanted : List Nat) (member : Member) :
    Attempts env s (replaceRoles user wanted member) done
      (replacement env.trigger.guild user member.roles wanted) := by
  unfold replaceRoles replacement
  rw [← List.append_nil (List.map (Call.removeRole _ _) _)]
  refine attempts_quiet (attempts_ask _) fun _ => attempts_bind (a := ()) ?_ fun _ =>
    attempts_bind (a := ()) ?_ fun _ => attempts_pure done
  · exact attempts_forM (fun role _ => attempts_call _ fun _ => rfl) _
  · exact attempts_forM (fun role _ => attempts_call _ fun _ => rfl) _

theorem readAndReplace_attempts {wanted : List Nat} {member : Member}
    (hWanted : (flatten true (arguments.drop 1)).mapM (idOf "setRoles") = .ok wanted)
    (hMember : env.host.member user = some member) :
    Attempts env s (readAndReplace user arguments) done
      (replacement env.trigger.guild user member.roles wanted) := by
  unfold readAndReplace
  exact attempts_quiet (attempts_orMistake hWanted) fun _ =>
    attempts_quiet (attempts_ask _) fun _ =>
    attempts_quiet (attempts_orMissing _ hMember) fun _ => replaceRoles_attempts wanted member

theorem setRoles_of_refused (hUser : idOf "setRoles" (argument arguments 0) = .ok user)
    (hRefused : (s.ledger.judge (replaceDemand user)).1.isGranted = false) :
    ((setRoles arguments).perform env s).2 = charged s (replaceDemand user) := by
  obtain ⟨fault, hFails⟩ := perform_demand_bind_of_not_granted hRefused _ env
  rw [perform_setRoles hUser, hFails]

theorem setRoles_of_counted (hUser : idOf "setRoles" (argument arguments 0) = .ok user)
    (hCounted : (s.ledger.judge (replaceDemand user)).1.isGranted = true) :
    (setRoles arguments).perform env s =
      (demand .apiCall >>= fun _ => readAndReplace user arguments).perform env
        (charged s (replaceDemand user)) := by
  rw [perform_setRoles hUser, perform_demand_bind_of_granted hCounted]

/-- What happens in a call that names a member and roles: one of the two budgets refuses it, or both
grant it and a replacement is attempted. -/
theorem setRoles_course {wanted : List Nat} {member : Member}
    (hUser : idOf "setRoles" (argument arguments 0) = .ok user)
    (hWanted : (flatten true (arguments.drop 1)).mapM (idOf "setRoles") = .ok wanted)
    (hMember : env.host.member user = some member) :
    ∃ new, ((setRoles arguments).perform env s).2.log = new ++ s.log ∧
      (new = [.demanded (replaceDemand user) false] ∨
        new = [.demanded .apiCall false, .demanded (replaceDemand user) true] ∨
        ∃ made, new = made ++ [.demanded .apiCall true, .demanded (replaceDemand user) true] ∧
          ((∃ failed, .called failed false ∈ made) ∨
            callsOf made = replacement env.trigger.guild user member.roles wanted)) := by
  rcases hFirst : (s.ledger.judge (replaceDemand user)).1.isGranted with _ | _
  · refine ⟨_, ?_, .inl rfl⟩
    rw [setRoles_of_refused hUser hFirst, charged_log hFirst]
    rfl
  · rw [setRoles_of_counted hUser hFirst]
    rcases hSecond :
      ((charged s (replaceDemand user)).ledger.judge .apiCall).1.isGranted with _ | _
    · obtain ⟨fault, hFails⟩ := perform_demand_bind_of_not_granted hSecond
        (fun _ => readAndReplace user arguments) env
      refine ⟨_, ?_, .inr (.inl rfl)⟩
      rw [hFails, charged_log hSecond, charged_log hFirst]
      rfl
    · obtain ⟨made, hMade, hOutcome⟩ : Attempts env
          (charged (charged s (replaceDemand user)) .apiCall) (readAndReplace user arguments) done
          (replacement env.trigger.guild user member.roles wanted) :=
        readAndReplace_attempts hWanted hMember
      refine ⟨made ++ [_, _], ?_, .inr (.inr ⟨made, rfl, ?_⟩)⟩
      · rw [perform_demand_bind_of_granted hSecond, hMade, charged_log hSecond,
          charged_log hFirst, List.append_assoc]
        rfl
      · rcases hOutcome with ⟨failed, fault, hFailed, -⟩ | ⟨-, hCalls⟩
        · exact .inl ⟨failed, hFailed⟩
        · exact .inr hCalls

/-- A call that both budgets grant makes the calls of a replacement, if none of them fails. -/
theorem callsOf_of_granted {wanted : List Nat} {member : Member} {new : List Event}
    (hUser : idOf "setRoles" (argument arguments 0) = .ok user)
    (hWanted : (flatten true (arguments.drop 1)).mapM (idOf "setRoles") = .ok wanted)
    (hMember : env.host.member user = some member)
    (hLog : ((setRoles arguments).perform env s).2.log = new ++ s.log)
    (hOnce : .demanded (replaceDemand user) true ∈ new) (hShared : .demanded .apiCall true ∈ new)
    (hNone : ∀ failed, .called failed false ∉ new) :
    callsOf new = replacement env.trigger.guild user member.roles wanted := by
  obtain ⟨other, hOther, hCourse⟩ := setRoles_course (s := s) hUser hWanted hMember
  have hSame : other = new := List.append_cancel_right (hOther.symm.trans hLog)
  subst hSame
  rcases hCourse with rfl | rfl | ⟨made, rfl, ⟨failed, hFailed⟩ | hCalls⟩
  · simp at hOnce
  · simp [replaceDemand] at hShared
  · exact absurd (List.mem_append_left _ hFailed) (hNone failed)
  · rw [callsOf_append, hCalls]
    rfl

/-! ### Once for each user -/

/-- What follows the demand for one user demands of the shared budget and asks the platform. -/
theorem replacing_confined :
    Confined { Powers.none with demands := fun _ => True, calls := fun _ => True }
      (demand .apiCall >>= fun _ => readAndReplace user arguments) :=
  .bind (.demand trivial) fun _ => .bind (.orMistake _) fun _ => .bind (.ask _) fun _ =>
    .bind (.orMissing _ _) fun _ => .bind (.ask _) fun _ =>
    .bind (.forM (fun _ => .call trivial) _) fun _ =>
    .bind (.forM (fun _ => .call trivial) _) fun _ => .pure _

theorem count_charged_replaceDemand :
    1 ≤ (charged s (replaceDemand user)).ledger.count (setRolesKey user) := by
  show 1 ≤ (s.ledger.charge (setRolesKey user)).count (setRolesKey user)
  rw [Ledger.count_charge_self]
  unfold Ledger.maxCount
  omega

/-- Whatever becomes of a call for a user, it is counted. -/
theorem setRoles_counts (hUser : idOf "setRoles" (argument arguments 0) = .ok user) :
    1 ≤ ((setRoles arguments).perform env s).2.ledger.count (setRolesKey user) := by
  rcases hFirst : (s.ledger.judge (replaceDemand user)).1.isGranted with _ | _
  · rw [setRoles_of_refused hUser hFirst]
    exact count_charged_replaceDemand
  · rw [setRoles_of_counted hUser hFirst]
    have hLater : Precedes (charged s (replaceDemand user))
        ((demand .apiCall >>= fun _ => readAndReplace user arguments).perform env
          (charged s (replaceDemand user))).2 := replacing_confined.books env _
    exact hLater.le_count (by decide) count_charged_replaceDemand

/-- A call for a user who has been counted makes no call of the platform. -/
theorem callsOf_of_counted {new : List Event}
    (hUser : idOf "setRoles" (argument arguments 0) = .ok user)
    (hCount : 1 ≤ s.ledger.count (setRolesKey user))
    (hLog : ((setRoles arguments).perform env s).2.log = new ++ s.log) : callsOf new = [] := by
  have hRefused : (s.ledger.judge (replaceDemand user)).1.isGranted = false := by
    show (s.ledger.check (setRolesKey user) 1).1.isGranted = false
    rw [Ledger.isGranted_check, decide_eq_false_iff_not]
    unfold Ledger.maxCount
    omega
  rw [setRoles_of_refused hUser hRefused, charged_log hRefused] at hLog
  have hNew : [.demanded (replaceDemand user) false] = new := List.append_cancel_right hLog
  rw [← hNew]
  rfl

end Steps

end Script

/-! ### Runs -/

/-- Whether a call of a function sets the roles of a user, with some arguments. -/
structure Act.SetsRoles (env : Environment) (a : Act) (arguments : List Value) (user : Nat) :
    Prop where
  function : a.function = .setRoles
  after : a.after = ((setRoles arguments).perform env a.before).2
  names : idOf "setRoles" (argument arguments 0) = .ok user

/-- Whether both budgets grant such a call, the roles that it names are read and those of the member
known, and no call of the platform fails. -/
structure Act.Proceeds (env : Environment) (a : Act) (arguments : List Value) (user : Nat)
    (wanted : List Nat) (member : Member) : Prop extends a.SetsRoles env arguments user where
  once : .demanded (.calls (setRolesKey user) 1) true ∈ a.events
  shared : .demanded .apiCall true ∈ a.events
  wants : (flatten true (arguments.drop 1)).mapM (idOf "setRoles") = .ok wanted
  knows : env.host.member user = some member
  delivered : ∀ failed, .called failed false ∉ a.events

section Runs

variable {env : Environment} {a : Act} {arguments : List Value} {user : Nat}

theorem Act.SetsRoles.log (h : a.SetsRoles env arguments user) :
    ((setRoles arguments).perform env a.before).2.log = a.events ++ a.before.log := by
  have hOwn : Builtin.setRoles.runsTemplate = false := rfl
  obtain ⟨new, hBooks⟩ :=
    (Builtin.confined_of_own (fun _ => pure "") hOwn arguments).books env a.before
  have hLog : a.after.log = new ++ a.before.log := by
    rw [h.after]
    exact hBooks.log
  rw [Act.events_eq hLog, ← h.after, hLog]

theorem Act.Proceeds.callsOf_events {wanted : List Nat} {member : Member}
    (h : a.Proceeds env arguments user wanted member) :
    callsOf a.events = replacement env.trigger.guild user member.roles wanted :=
  callsOf_of_granted h.names h.wants h.knows h.log h.once h.shared h.delivered

/-- A call for a user makes no call of the platform if an earlier one was for the same user. -/
theorem Act.SetsRoles.callsOf_later {later : Act} {others : List Value}
    (hEarlier : a.SetsRoles env others user) (hLater : later.SetsRoles env arguments user)
    (hOrder : Precedes a.after later.before) : callsOf later.events = [] := by
  have hCount : 1 ≤ a.after.ledger.count (setRolesKey user) := by
    rw [hEarlier.after]
    exact setRoles_counts hEarlier.names
  exact callsOf_of_counted hLater.names (hOrder.le_count (by decide) hCount) hLater.log

end Runs

/-- Whatever else a run does, the roles of a user are replaced at most once in it.  A call that
proceeds makes the calls of a replacement, which leads to the roles that are wanted, and has none
too many if and only if no wanted role that the member lacks is listed twice.  Every later call for
the user, however the number is written, makes no call of the platform. -/
theorem replaces_once {α : Type} {x : Script α} (hx : Composed x) (env : Environment)
    (s : Session) :
    (∃ acts, Enacts env x s acts) ∧
    ∀ acts, Enacts env x s acts →
      (∀ a ∈ acts, ∀ arguments user wanted member, member.roles.Nodup →
        a.Proceeds env arguments user wanted member →
        let made := callsOf a.events
        made = replacement env.trigger.guild user member.roles wanted ∧
        rolesAfter env.trigger.guild user member.roles.toFinset made = wanted.toFinset ∧
        (Replaces env.trigger.guild user member.roles wanted made ↔
          (lackedRoles member.roles wanted).Nodup)) ∧
      acts.Pairwise fun later earlier => ∀ user arguments others,
        earlier.SetsRoles env others user → later.SetsRoles env arguments user →
        callsOf later.events = [] := by
  refine ⟨hx.enacts env s, fun acts hActs => ⟨?_, ?_⟩⟩
  · intro a _ arguments user wanted member hRoles hProceeds made
    have hMade : made = replacement env.trigger.guild user member.roles wanted :=
      hProceeds.callsOf_events
    rw [hMade]
    exact ⟨rfl, rolesAfter_replacement, replaces_iff hRoles⟩
  · apply hActs.timeline.2.imp
    intro later earlier hOrder user arguments others hEarlier hLater
    exact hEarlier.callsOf_later hLater hOrder

/-- An execution on a platform that knows one member. -/
def memberKnown (member : Member) : Environment :=
  { sampleEnvironment with host := Rehearsal.host ⟨[], [member], 0, [], false, []⟩ }

/-- An execution on a platform that knows a member with two roles. -/
def settingEnvironment : Environment := memberKnown ⟨300, [400, 402]⟩

/-- Sets the roles of one user twice, with the number in two spellings. -/
def settingTwice : Script Value := do
  let _ ← Builtin.setRoles.run (fun _ => pure "") [.int 300, .int 401, .int 402]
  Builtin.setRoles.run (fun _ => pure "") [.text "+300", .int 400]

/-- The first of two calls that set the roles of one user. -/
def settingFirst : Act where
  function := .setRoles
  before := settingEnvironment.start
  after := ((setRoles [.int 300, .int 401, .int 402]).perform settingEnvironment
    settingEnvironment.start).2

/-- The second of two calls that set the roles of one user. -/
def settingAgain : Act where
  function := .setRoles
  before := settingFirst.after
  after := ((setRoles [.text "+300", .int 400]).perform settingEnvironment
    settingFirst.after).2

/-- One of two roles is replaced and the other stays, and then nothing is. -/
theorem replaces_once_in_two_calls :
    Composed settingTwice ∧
    Enacts settingEnvironment settingTwice settingEnvironment.start
      [settingAgain, settingFirst] ∧
    Replaces 1 300 [400, 402] [401, 402] (callsOf settingFirst.events) ∧
    callsOf settingFirst.events = [.addRole 1 300 401, .removeRole 1 300 400] ∧
    callsOf settingAgain.events = [] := by
  have hComposed : Composed settingTwice :=
    .bind (.builtin (fun _ => .pure "") _ _) fun _ => .builtin (fun _ => .pure "") _ _
  have hHead : Enacts settingEnvironment
      (Builtin.setRoles.run (fun _ => pure "") [.int 300, .int 401, .int 402])
      settingEnvironment.start [settingFirst] := .function _ rfl _ _
  have hRun : ((setRoles [.int 300, .int 401, .int 402]).perform settingEnvironment
      settingEnvironment.start).1 = .ok done := by rfl
  have hTail : Enacts settingEnvironment
      (Builtin.setRoles.run (fun _ => pure "") [.text "+300", .int 400]) settingFirst.after
      [settingAgain] := .function _ rfl _ _
  have hActs : Enacts settingEnvironment settingTwice
      settingEnvironment.start ([settingAgain] ++ [settingFirst]) :=
    .goesOn hHead (Prod.ext hRun rfl) hTail
  have hEvents : settingFirst.events = [.called (.removeRole 1 300 400) true,
      .called (.addRole 1 300 401) true, .demanded .apiCall true,
      .demanded (.calls (setRolesKey 300) 1) true] := by decide +kernel
  have hProceeds : settingFirst.Proceeds settingEnvironment
      [.int 300, .int 401, .int 402] 300 [401, 402] ⟨300, [400, 402]⟩ := by
    refine ⟨⟨rfl, rfl, rfl⟩, ?_, ?_, rfl, rfl, ?_⟩
    all_goals simp [hEvents]
  obtain ⟨hReplaced, hOrder⟩ :=
    (replaces_once hComposed settingEnvironment _).2 _ hActs
  obtain ⟨hMade, -, hReplaces⟩ := hReplaced settingFirst (by simp) _ _ _ _ (by decide) hProceeds
  have hLater := (List.pairwise_cons.mp hOrder).1 settingFirst (by simp) 300
    [.text "+300", .int 400] [.int 300, .int 401, .int 402] ⟨rfl, rfl, rfl⟩ ⟨rfl, rfl, by rfl⟩
  exact ⟨hComposed, hActs, hReplaces.mpr (by decide), hMade, hLater⟩

/-- A role that is lacking and listed twice is added twice. -/
theorem lacked_role_added_twice :
    let env := memberKnown ⟨300, [400]⟩
    let arguments : List Value := [.int 300, .int 401, .int 401]
    let after := ((setRoles arguments).perform env env.start).2
    let a : Act := ⟨.setRoles, env.start, after⟩
    a.Proceeds env arguments 300 [401, 401] ⟨300, [400]⟩ ∧ [400].Nodup ∧
      callsOf a.events = [.addRole 1 300 401, .addRole 1 300 401, .removeRole 1 300 400] ∧
      ¬Replaces 1 300 [400] [401, 401] (callsOf a.events) := by
  intro env arguments after a
  have hEvents : a.events = [.called (.removeRole 1 300 400) true,
      .called (.addRole 1 300 401) true, .called (.addRole 1 300 401) true, .demanded .apiCall true,
      .demanded (.calls (setRolesKey 300) 1) true] := by decide +kernel
  refine ⟨⟨⟨rfl, rfl, rfl⟩, ?_, ?_, rfl, rfl, ?_⟩, by decide, ?_, fun h => ?_⟩
  · simp [hEvents]
  · simp [hEvents]
  · simp [hEvents]
  · rw [hEvents]
    rfl
  · have hOnce := h.added 401
    rw [hEvents] at hOnce
    exact absurd hOnce (by decide)

end BotScript
