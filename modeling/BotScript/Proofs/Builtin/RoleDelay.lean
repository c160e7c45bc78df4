import BotScript.Proofs.Delivery

/-! Changes of roles that are to happen later.  A delay of more than a second goes to the schedule,
and the change is due that many seconds after the call.  A number of seconds that no duration has
counts as no delay, though, so that the change happens at once: `Builtin.waits_iff` says when a call
waits as long as it was told to. -/

namespace BotScript

open Script

/-! ### Seconds -/

/-- The seconds of the longest duration. -/
def Duration.maxSeconds : Int := 9223372036854775

theorem Duration.ofSeconds?_of_le {n : Int} (hLow : 0 ≤ n) (hHigh : n ≤ maxSeconds) :
    ∃ d, ofSeconds? n = some d ∧ d.nanos = n * nanosPerSecond := by
  have hRange : (n * nanosPerSecond).natAbs ≤ maxNanos := by
    unfold maxSeconds at hHigh
    unfold nanosPerSecond maxNanos
    omega
  refine ⟨⟨n * nanosPerSecond, hRange⟩, ?_, rfl⟩
  unfold ofSeconds? ofNanos?
  exact dif_pos hRange

theorem Duration.ofSeconds?_of_lt {n : Int} (h : maxSeconds < n) : ofSeconds? n = none := by
  have hRange : ¬(n * nanosPerSecond).natAbs ≤ maxNanos := by
    unfold maxSeconds at h
    unfold nanosPerSecond maxNanos
    omega
  unfold ofSeconds? ofNanos?
  exact dif_neg hRange

/-- The nanoseconds from the start of 1970 to an instant. -/
def Instant.sinceEpoch (t : Instant) : Int := t.seconds * nanosPerSecond + t.nanos

theorem Instant.sinceEpoch_after {t due : Instant} {d : Duration} (h : t.after? d = some due) :
    due.sinceEpoch = t.sinceEpoch + d.nanos := by
  simp only [after?] at h
  split at h
  · cases h
    have hPositive : (nanosPerSecond : Int) ≠ 0 := by decide
    have hNanos := Int.emod_nonneg (t.seconds * nanosPerSecond + t.nanos + d.nanos) hPositive
    have hWhole := Int.ediv_mul_add_emod (t.seconds * nanosPerSecond + t.nanos + d.nanos)
      nanosPerSecond
    unfold sinceEpoch
    simp only [Int.toNat_of_nonneg hNanos]
    omega
  · exact nomatch h

/-- The seconds that a number stands for: those of an integer, and those of the integer part of a
float, cut off at the ends of 64 bits. -/
def Value.seconds? (v : Value) : Option Int :=
  match v.dereference with
  | some (.int n) => some n.toInt
  | some (.float x) => some (x.truncateClamped Int64.minValue.toInt Int64.maxValue.toInt)
  | _ => none

theorem Binary64.truncateClamped_bounds (x : Binary64) {lo hi : Int} (hLow : lo ≤ 0)
    (hHigh : 0 ≤ hi) : lo ≤ x.truncateClamped lo hi ∧ x.truncateClamped lo hi ≤ hi := by
  unfold truncateClamped
  split
  · exact ⟨hLow, hHigh⟩
  · split
    · split <;> omega
    · simp only
      omega

theorem Value.toInt_intOfFloat (x : Binary64) :
    (intOfFloat x).toInt = x.truncateClamped Int64.minValue.toInt Int64.maxValue.toInt := by
  have hNegative : Int64.minValue.toInt ≤ 0 := by decide
  have hPositive : 0 ≤ Int64.maxValue.toInt := by decide
  obtain ⟨hLow, hHigh⟩ := x.truncateClamped_bounds hNegative hPositive
  have hMin : Int64.minValue.toInt = -2 ^ 63 := by decide
  have hMax : Int64.maxValue.toInt = 2 ^ 63 - 1 := by decide
  unfold intOfFloat
  apply Int64.toInt_ofInt_of_le
  · omega
  · omega

/-- A number that is passed as the delay counts seconds, as long as a duration has so many. -/
theorem roleDelay_of_seconds {arguments : List Value} {v : Value} {n : Int}
    (hGiven : arguments[2]? = some v) (hSeconds : v.seconds? = some n) :
    roleDelay (givenArgument? arguments 2) = (Duration.ofSeconds? n).getD .zero := by
  unfold Value.seconds? at hSeconds
  unfold roleDelay givenArgument?
  rw [hGiven]
  rcases hInside : v.dereference with _ | inner
  · simp [hInside] at hSeconds
  · have hNil : v.isNil = false := by simp [Value.isNil, hInside]
    rw [hInside] at hSeconds
    simp only [Option.filter_some, hNil, Bool.not_false, if_true, Option.bind_some, hInside]
    cases inner with
    | int n =>
      cases hSeconds
      rfl
    | float x =>
      cases hSeconds
      simp only [Value.toInt_intOfFloat]
    | _ => exact nomatch hSeconds

/-! ### Changes -/

/-- Gives a role or takes one. -/
def Call.change (give : Bool) (guild user role : Nat) : Call :=
  if give then .addRole guild user role else .removeRole guild user role

/-- Has a role given or taken at an instant. -/
def Call.changeAt (give : Bool) (guild user role : Nat) (due : Instant) : Call :=
  if give then .scheduleAddRole guild user role due else .scheduleRemoveRole guild user role due

namespace Script

/-- The user and the role of a change that the shared budget grants. -/
def grantedChange (function : String) (arguments : List Value) : Script (Nat × Nat) := do
  orMistake (requireArguments function arguments 2)
  demand .apiCall
  let user ← orMistake (idOf function (argument arguments 0))
  let role ← orMistake (idOf function (argument arguments 1))
  return (user, role)

/-- Changes a role after a delay, at once if that is a second at most. -/
def changeAfter (give : Bool) (delay : Duration) (user role : Nat) : Script Value := do
  let guild ← ask (·.trigger.guild)
  if Duration.nanosPerSecond < delay.nanos then
    let due ← after delay
    let _ ← call (.changeAt give guild user role due)
    return done
  else
    let _ ← call (.change give guild user role)
    return done

theorem changeRole_eq (function : String) (give : Bool) (arguments : List Value) :
    changeRole function give arguments = grantedChange function arguments >>= fun (user, role) =>
      changeAfter give (roleDelay (givenArgument? arguments 2)) user role := by
  unfold changeRole grantedChange changeAfter Call.change Call.changeAt
  simp only [bind_assoc, pure_bind]
  cases give <;> rfl

/-- A call that ends a function, which answers nothing of its own. -/
theorem perform_call_done (c : Call) (env : Environment) (s : Session) :
    (do let _ ← call c; return done : Script Value).perform env s =
      ((env.host.answer s.log c).map fun _ => done,
        { s with log := .called c (env.host.answer s.log c).toBool :: s.log }) :=
  perform_call_return c (fun _ => done) env s

section Steps

variable {function : String} {arguments : List Value} {give : Bool} {delay : Duration}
  {user role : Nat} {env : Environment} {s : Session}

theorem changeAfter_of_long (hLong : Duration.nanosPerSecond < delay.nanos) {due : Instant}
    (hDue : (env.host.clock s.log).after? delay = some due) :
    (changeAfter give delay user role).perform env s =
      (do let _ ← call (.changeAt give env.trigger.guild user role due); return done
        : Script Value).perform env s := by
  unfold changeAfter after
  rw [perform_bind, perform_ask]
  simp only [if_pos hLong]
  rw [perform_bind, perform_bind, perform_now]
  simp only [hDue, perform_pure]

/-- There is no date for what lies too far ahead. -/
theorem changeAfter_of_undated (hLong : Duration.nanosPerSecond < delay.nanos)
    (hDue : (env.host.clock s.log).after? delay = none) :
    (changeAfter give delay user role).perform env s = (.error (.invalid .delayTooLong), s) := by
  unfold changeAfter after
  rw [perform_bind, perform_ask]
  simp only [if_pos hLong]
  rw [perform_bind, perform_bind, perform_now]
  simp only [hDue, perform_throw]

theorem changeAfter_of_short (hShort : ¬Duration.nanosPerSecond < delay.nanos) :
    (changeAfter give delay user role).perform env s =
      (do let _ ← call (.change give env.trigger.guild user role); return done
        : Script Value).perform env s := by
  unfold changeAfter
  rw [perform_bind, perform_ask]
  simp only [if_neg hShort]

/-- Whether the shared budget grants a change, which names a user and a role. -/
structure Granted (function : String) (arguments : List Value) (s : Session) (user role : Nat) :
    Prop where
  budget : (s.ledger.judge .apiCall).1 = .granted
  user : idOf function (argument arguments 0) = .ok user
  role : idOf function (argument arguments 1) = .ok role

theorem grantedChange_of_granted (hCount : 2 ≤ arguments.length)
    (h : Granted function arguments s user role) :
    (grantedChange function arguments).perform env s = (.ok (user, role), charged s .apiCall) := by
  unfold grantedChange
  rw [requireArguments_of_le hCount, h.user, h.role]
  show (demand .apiCall >>= fun _ => pure (user, role) : Script (Nat × Nat)).perform env s = _
  rw [perform_demand_bind_of_granted (Verdict.isGranted_iff.mpr h.budget)]
  rfl

/-- A change that is not granted fails after it has charged for a call. -/
theorem grantedChange_of_not_granted (env : Environment) (hCount : 2 ≤ arguments.length)
    (h : ∀ user role, ¬Granted function arguments s user role) :
    ∃ fault, (grantedChange function arguments).perform env s =
      (.error fault, charged s .apiCall) := by
  unfold grantedChange
  rw [requireArguments_of_le hCount]
  show ∃ fault, (demand .apiCall >>= fun _ => _).perform env s = (.error fault, charged s .apiCall)
  rcases hBudget : (s.ledger.judge .apiCall).1.isGranted with _ | _
  · exact perform_demand_bind_of_not_granted hBudget _ env
  · rw [perform_demand_bind_of_granted hBudget]
    rcases hUser : idOf function (argument arguments 0) with mistake | user
    · exact ⟨.invalid mistake, rfl⟩
    · rcases hRole : idOf function (argument arguments 1) with mistake | role
      · exact ⟨.invalid mistake, rfl⟩
      · exact absurd ⟨Verdict.isGranted_iff.mp hBudget, hUser, hRole⟩ (h user role)

end Steps

end Script

/-! ### Waiting -/

/-- What becomes of a call that is told to change a role after some seconds, if it waits for them: a
change is scheduled for that time, and the answer to this is that of the call, or the call fails and
asks nothing of the platform. -/
inductive Waits (function : String) (give : Bool) (arguments : List Value) (seconds : Int)
    (env : Environment) (s : Session) : Except Fault Value → List Event → Prop
  | scheduled {user role : Nat} {due : Instant} {earlier : List Event} {c : Call}
      (hUser : idOf function (argument arguments 0) = .ok user)
      (hRole : idOf function (argument arguments 1) = .ok role)
      (hCall : c = .changeAt give env.trigger.guild user role due)
      (hDue : due.sinceEpoch =
        (env.host.clock (earlier ++ s.log)).sinceEpoch + seconds * Duration.nanosPerSecond)
      (hQuiet : callsOf earlier = []) :
      Waits function give arguments seconds env s
        ((env.host.answer (earlier ++ s.log) c).map fun _ => done)
        (.called c (env.host.answer (earlier ++ s.log) c).toBool :: earlier)
  | failed {fault : Fault} {new : List Event} (hQuiet : callsOf new = []) :
      Waits function give arguments seconds env s (.error fault) new

/-- The function that gives a role or takes one. -/
def Builtin.roleChange (give : Bool) : Builtin := if give then giveRoleID else takeRoleID

theorem Builtin.run_roleChange (engine : Engine) (give : Bool) (arguments : List Value) :
    (roleChange give).run engine arguments =
      changeRole (roleChange give).name give arguments := by
  cases give <;> rfl

section Changes

variable {function : String} {arguments : List Value} {seconds : Int} {user role : Nat}
  {s : Session} (give : Bool) (env : Environment)

theorem changeRole_of_granted (hCount : 2 ≤ arguments.length)
    (hGranted : Granted function arguments s user role) :
    (changeRole function give arguments).perform env s =
      (changeAfter give (roleDelay (givenArgument? arguments 2)) user role).perform env
        (charged s .apiCall) := by
  rw [changeRole_eq, perform_bind, grantedChange_of_granted hCount hGranted]

theorem changeRole_of_not_granted (hCount : 2 ≤ arguments.length)
    (h : ∀ user role, ¬Granted function arguments s user role) :
    ∃ fault, (changeRole function give arguments).perform env s =
      (.error fault, charged s .apiCall) := by
  obtain ⟨fault, hFails⟩ := grantedChange_of_not_granted env hCount h
  refine ⟨fault, ?_⟩
  rw [changeRole_eq, perform_bind, hFails]

/-- A call that is granted waits for as many seconds as a duration has. -/
theorem waits_of_granted (hCount : 2 ≤ arguments.length)
    (hGranted : Granted function arguments s user role) {delay : Duration}
    (hDelay : roleDelay (givenArgument? arguments 2) = delay)
    (hNanos : delay.nanos = seconds * Duration.nanosPerSecond) (hLong : 1 < seconds) :
    ∃ new, ((changeRole function give arguments).perform env s).2.log = new ++ s.log ∧
      Waits function give arguments seconds env s
        ((changeRole function give arguments).perform env s).1 new := by
  have hLate : Duration.nanosPerSecond < delay.nanos := by
    rw [hNanos]
    unfold Duration.nanosPerSecond
    omega
  rw [changeRole_of_granted give env hCount hGranted, hDelay]
  rcases hDue : (env.host.clock (charged s .apiCall).log).after? delay with _ | due
  · rw [changeAfter_of_undated hLate hDue]
    exact ⟨[_], rfl, .failed (callsOf_demanded _ _)⟩
  · rw [changeAfter_of_long hLate hDue, perform_call_done]
    have hSince := Instant.sinceEpoch_after hDue
    rw [hNanos] at hSince
    exact ⟨[_, _], rfl,
      .scheduled hGranted.user hGranted.role rfl hSince (callsOf_demanded _ _)⟩

/-- A call that is granted and has no delay changes the role at once. -/
theorem changes_of_granted (hCount : 2 ≤ arguments.length)
    (hGranted : Granted function arguments s user role)
    (hDelay : roleDelay (givenArgument? arguments 2) = .zero) :
    ∃ new, ((changeRole function give arguments).perform env s).2.log = new ++ s.log ∧
      callsOf new = [.change give env.trigger.guild user role] := by
  have hShort : ¬Duration.nanosPerSecond < Duration.zero.nanos := by decide
  rw [changeRole_of_granted give env hCount hGranted, hDelay, changeAfter_of_short hShort,
    perform_call_done]
  exact ⟨[_, _], rfl, rfl⟩

end Changes

section Waiting

variable {function : String} {give : Bool} {arguments : List Value} {seconds : Int}
  {env : Environment} {s : Session} {result : Except Fault Value} {new : List Event}

/-- A call that waits asks nothing of the platform or has a change scheduled. -/
theorem Waits.calls (h : Waits function give arguments seconds env s result new) :
    callsOf new = [] ∨ ∃ user role due,
      callsOf new = [.changeAt give env.trigger.guild user role due] := by
  cases h with
  | failed hQuiet => exact .inl hQuiet
  | @scheduled user role due earlier c _ _ hCall _ hQuiet =>
    rw [callsOf_called, hQuiet, hCall]
    exact .inr ⟨user, role, due, rfl⟩

/-- A call that changes a role at once does not wait. -/
theorem not_waits_of_change {guild user role : Nat}
    (hCalls : callsOf new = [.change give guild user role]) :
    ¬Waits function give arguments seconds env s result new := by
  intro hWaits
  rcases hWaits.calls with hNone | ⟨other, otherRole, due, hLater⟩
  · rw [hCalls] at hNone
    exact nomatch hNone
  · rw [hCalls] at hLater
    have hSame := List.head_eq_of_cons_eq hLater
    cases give with
    | true => exact nomatch hSame
    | false => exact nomatch hSame

end Waiting

/-- A call that is told to change a role after more than a second waits as long as it was told to,
or fails without a change, if and only if the seconds are no more than a duration has or the call is
not granted.  If they are more and it is granted, it changes the role at once. -/
theorem Builtin.waits_iff (engine : Engine) (give : Bool) {arguments : List Value} {v : Value}
    {seconds : Int} (hGiven : arguments[2]? = some v) (hSeconds : v.seconds? = some seconds)
    (hLong : 1 < seconds) (env : Environment) (s : Session) :
    let function := (roleChange give).name
    let (result, after) := ((roleChange give).run engine arguments).perform env s
    ∃ new, after.log = new ++ s.log ∧
      (Waits function give arguments seconds env s result new ↔
        seconds ≤ Duration.maxSeconds ∨ ∀ user role, ¬Granted function arguments s user role) ∧
      (Duration.maxSeconds < seconds → ∀ user role, Granted function arguments s user role →
        callsOf new = [.change give env.trigger.guild user role]) := by
  intro function
  have hCount : 2 ≤ arguments.length := by
    obtain ⟨hIndex, -⟩ := List.getElem?_eq_some_iff.mp hGiven
    omega
  have hDelay := roleDelay_of_seconds hGiven hSeconds
  rw [run_roleChange]
  by_cases hGranted : ∃ user role, Granted function arguments s user role
  · obtain ⟨user, role, hGranted⟩ := hGranted
    rcases Int.lt_or_le Duration.maxSeconds seconds with hFar | hNear
    · rw [Duration.ofSeconds?_of_lt hFar] at hDelay
      obtain ⟨new, hLog, hCalls⟩ := changes_of_granted give env hCount hGranted hDelay
      refine ⟨new, hLog, ⟨fun hWaits => absurd hWaits (not_waits_of_change hCalls), ?_⟩, ?_⟩
      · rintro (hNear | hNone)
        · omega
        · exact absurd hGranted (hNone user role)
      · intro _ other otherRole hOther
        cases hGranted.user.symm.trans hOther.user
        cases hGranted.role.symm.trans hOther.role
        exact hCalls
    · obtain ⟨delay, hSome, hNanos⟩ := Duration.ofSeconds?_of_le (by omega) hNear
      rw [hSome] at hDelay
      obtain ⟨new, hLog, hWaits⟩ := waits_of_granted give env hCount hGranted hDelay hNanos hLong
      exact ⟨new, hLog, ⟨fun _ => .inl hNear, fun _ => hWaits⟩, fun hFar => by omega⟩
  · have hNone : ∀ user role, ¬Granted function arguments s user role :=
      fun user role h => hGranted ⟨user, role, h⟩
    obtain ⟨fault, hFails⟩ := changeRole_of_not_granted give env hCount hNone
    rw [hFails]
    exact ⟨[_], rfl, ⟨fun _ => .inr hNone, fun _ => .failed (callsOf_demanded _ _)⟩,
      fun _ user role h => absurd h (hNone user role)⟩

/-- A delay of 60.9 seconds, in a wrapper, waits for a minute. -/
theorem Builtin.waits_for_a_minute :
    let delay : Value := .boxed (.float ⟨0x404E733333333333⟩)
    let arguments : List Value := [.int 300, .int 401, delay]
    arguments[2]? = some delay ∧ delay.seconds? = some 60 ∧ (1 : Int) < 60 ∧
    let (result, after) := (giveRoleID.run (fun _ => pure "") arguments).perform sampleEnvironment
      sampleEnvironment.start
    Waits "giveRoleID" true arguments 60 sampleEnvironment sampleEnvironment.start result
        after.log ∧
      callsOf after.log = [.scheduleAddRole 1 300 401 ⟨1767225660, 0⟩] := by
  intro delay arguments
  have hGiven : arguments[2]? = some delay := rfl
  have hSeconds : delay.seconds? = some 60 := by decide +kernel
  have hLong : (1 : Int) < 60 := by decide
  refine ⟨hGiven, hSeconds, hLong, ?_⟩
  obtain ⟨new, hLog, hWaits, -⟩ := Builtin.waits_iff (fun _ => pure "") true hGiven hSeconds hLong
    sampleEnvironment sampleEnvironment.start
  have hNew := hLog.trans (List.append_nil new)
  have hAll := hWaits.mpr (.inl (by decide))
  rw [← hNew] at hAll
  exact ⟨hAll, by decide +kernel⟩

/-- The longest delay that can be written changes the role at once. -/
theorem Builtin.longest_delay_changes_at_once :
    let delay : Value := .int Int64.maxValue
    let arguments : List Value := [.int 300, .int 401, delay]
    let (result, after) := (giveRoleID.run (fun _ => pure "") arguments).perform sampleEnvironment
      sampleEnvironment.start
    arguments[2]? = some delay ∧ delay.seconds? = some 9223372036854775807 ∧
      result = .ok done ∧ callsOf after.log = [.addRole 1 300 401] ∧
      ¬Waits "giveRoleID" true arguments 9223372036854775807 sampleEnvironment
        sampleEnvironment.start result after.log := by
  intro delay arguments
  exact ⟨rfl, by decide, rfl, rfl, not_waits_of_change rfl⟩

end BotScript
