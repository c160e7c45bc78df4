import BotScript.Proofs.Builtin.RoleDelay
import BotScript.Proofs.Builtin.Budget

/-! Functions that ask the platform for one thing: those that send, edit and delete messages, and
those that give and take roles.  Every check comes before the one call, so that a function that
fails for a reason of its own has asked for nothing, and besides the call at most one charge to the
shared budget remains. -/

namespace BotScript

open Script

/-- What becomes of a function that asks the platform for one thing.  It fails before that, it is
`silent` because there is nothing to ask for, or its outcome is that of its only call. -/
inductive ActsOnce (silent : Bool) (env : Environment) (log : List Event) :
    Except Fault Value → List Event → Prop
  | failed {fault : Fault} {new : List Event} (hQuiet : callsOf new = []) :
      ActsOnce silent env log (.error fault) new
  | silent {v : Value} {new : List Event} (hSilent : silent = true) (hQuiet : callsOf new = []) :
      ActsOnce silent env log (.ok v) new
  | called {c : Call} {give : c.Reply → Value} {earlier : List Event} (hLoud : silent = false)
      (hEffect : c.isEffect = true) (hQuiet : callsOf earlier = []) :
      ActsOnce silent env log ((env.host.answer (earlier ++ log) c).map give)
        (.called c (env.host.answer (earlier ++ log) c).toBool :: earlier)

/-- What a function gave and left that started in `s` and acts once, with the ledger that it
leaves. -/
def Settles (silent : Bool) (env : Environment) (s : Session) (ledger : Ledger)
    (result : Except Fault Value × Session) : Prop :=
  ∃ new, result.2 = { s with ledger := ledger, log := new ++ s.log } ∧
    ActsOnce silent env s.log result.1 new

section Steps

variable {silent : Bool} {env : Environment} {s : Session}

theorem ActsOnce.after_event {e : Event} (he : e.call? = none) {log new : List Event}
    {result : Except Fault Value} (h : ActsOnce silent env (e :: log) result new) :
    ActsOnce silent env log result (new ++ [e]) := by
  have hQuiet : ∀ {earlier}, callsOf earlier = [] → callsOf (earlier ++ [e]) = [] := by
    intro earlier hEarlier
    rw [callsOf_append, hEarlier, callsOf_cons_of_none he]
    rfl
  cases h with
  | failed hNone => exact .failed (hQuiet hNone)
  | silent hSilent hNone => exact .silent hSilent (hQuiet hNone)
  | @called c give earlier hLoud hEffect hNone =>
    have hLog : earlier ++ e :: log = (earlier ++ [e]) ++ log := List.append_cons _ _ _
    rw [hLog]
    exact .called hLoud hEffect (hQuiet hNone)

theorem settles_fault (fault : Fault) : Settles silent env s s.ledger (.error fault, s) :=
  ⟨[], rfl, .failed rfl⟩

theorem settles_looking_bind {α : Type} {x : Script α} {f : α → Script Value}
    (hx : Confined .none x) (hf : ∀ a, Settles silent env s s.ledger ((f a).perform env s)) :
    Settles silent env s s.ledger ((x >>= f).perform env s) :=
  looking_bind (Q := Settles silent env s s.ledger) hx (fun fault _ => settles_fault fault) hf

theorem settles_call {c : Call} (hEffect : c.isEffect = true) (give : c.Reply → Value) :
    Settles false env s s.ledger
      ((do let reply ← call c; return give reply : Script Value).perform env s) := by
  rw [perform_call_return]
  have hFirst : callsOf [] = [] := rfl
  exact ⟨_, rfl, .called rfl hEffect hFirst⟩

theorem settles_demand_bind {g : Unit → Script Value}
    (hg : ∀ s, Settles silent env s s.ledger ((g ()).perform env s)) :
    Settles silent env s (s.ledger.charge Ledger.apiKey)
      ((demand .apiCall >>= g).perform env s) := by
  rcases hBudget : (s.ledger.judge .apiCall).1.isGranted with _ | _
  · obtain ⟨fault, hFails⟩ := perform_demand_bind_of_not_granted hBudget g env
    rw [hFails]
    exact ⟨[.demanded .apiCall (s.ledger.judge .apiCall).1.isGranted], rfl, .failed rfl⟩
  · obtain ⟨new, hAfter, hActs⟩ := hg (charged s .apiCall)
    rw [perform_demand_bind_of_granted hBudget]
    refine ⟨new ++ [.demanded .apiCall (s.ledger.judge .apiCall).1.isGranted], ?_,
      hActs.after_event rfl⟩
    rw [hAfter, List.append_assoc]
    rfl

/-- Too few arguments are found before anything is charged. -/
theorem settles_required_bind {function : String} {arguments : List Value} {least : Nat}
    {f : Unit → Script Value} {ledger : Ledger}
    (hf : least ≤ arguments.length → Settles silent env s ledger ((f ()).perform env s)) :
    Settles silent env s (if arguments.length < least then s.ledger else ledger)
      ((orMistake (requireArguments function arguments least) >>= f).perform env s) := by
  by_cases hFew : arguments.length < least
  · rw [if_pos hFew, requireArguments, if_pos hFew]
    exact settles_fault _
  · rw [if_neg hFew, requireArguments_of_le (Nat.le_of_not_lt hFew)]
    exact hf (Nat.le_of_not_lt hFew)

end Steps

/-! ### The functions -/

section Functions

variable (arguments : List Value) (env : Environment) (s : Session)

theorem sendMessage_settles :
    Settles (isAllBlank (argument arguments 1).toText) env s (s.ledger.charge Ledger.apiKey)
      ((sendMessage arguments).perform env s) := by
  refine settles_demand_bind fun s => settles_looking_bind (channelOf_confined _) fun channel => ?_
  simp only
  rcases hBlank : isAllBlank (argument arguments 1).toText with _ | _
  · exact settles_call rfl _
  · exact ⟨[], rfl, .silent rfl rfl⟩

theorem editMessage_settles :
    Settles false env s
      (if arguments.length < 3 then s.ledger else s.ledger.charge Ledger.apiKey)
      ((editMessage arguments).perform env s) :=
  settles_required_bind fun _ => settles_demand_bind fun _ =>
    settles_looking_bind (channelOf_confined _) fun _ =>
    settles_looking_bind (.orMistake _) fun _ =>
    settles_call rfl fun _ => done

theorem deleteMessage_settles :
    Settles false env s
      (if arguments.length < 2 then s.ledger else s.ledger.charge Ledger.apiKey)
      ((deleteMessage arguments).perform env s) := by
  refine settles_required_bind fun _ => settles_demand_bind fun s =>
    settles_looking_bind (channelOf_confined _) fun channel => settles_looking_bind (.orMistake _)
    fun message => settles_looking_bind (.ask _) fun limits => ?_
  simp only
  split
  · exact settles_call rfl fun _ => done
  · exact settles_looking_bind (afterSeconds_confined _) fun due =>
      settles_looking_bind (.ask _) fun guild => settles_call rfl fun _ => done

theorem changeAfter_settles (give : Bool) (delay : Duration) (user role : Nat) :
    Settles false env s s.ledger ((changeAfter give delay user role).perform env s) := by
  refine settles_looking_bind (.ask _) fun guild => ?_
  split
  · refine settles_looking_bind (after_confined _) fun due => settles_call ?_ fun _ => done
    cases give <;> rfl
  · refine settles_call ?_ fun _ => done
    cases give <;> rfl

theorem changeRole_settles (function : String) (give : Bool) :
    Settles false env s
      (if arguments.length < 2 then s.ledger else s.ledger.charge Ledger.apiKey)
      ((changeRole function give arguments).perform env s) := by
  rw [changeRole_eq]
  unfold grantedChange
  simp only [bind_assoc, pure_bind]
  exact settles_required_bind fun _ => settles_demand_bind fun s =>
    settles_looking_bind (.orMistake _) fun user => settles_looking_bind (.orMistake _) fun role =>
    changeAfter_settles env s give _ user role

theorem deleteTrigger_settles :
    Settles false env s s.ledger ((deleteTrigger arguments).perform env s) :=
  settles_looking_bind triggerMessage_confined fun _ => settles_looking_bind (.ask _) fun _ =>
    settles_looking_bind (afterSeconds_confined _) fun _ => settles_looking_bind (.ask _) fun _ =>
    settles_call rfl fun _ => done

end Functions

/-- How many arguments a function takes at least that asks the platform for one thing. -/
def Builtin.leastArguments? : Builtin → Option Nat
  | sendMessage | deleteTrigger => some 0
  | deleteMessage | giveRoleID | takeRoleID => some 2
  | editMessage => some 3
  | _ => none

/-- Whether there is nothing to ask the platform for: the message to send cannot be seen. -/
def Builtin.isSilent (arguments : List Value) : Builtin → Bool
  | sendMessage => isAllBlank (argument arguments 1).toText
  | _ => false

theorem Builtin.settles (engine : Engine) {b : Builtin} {least : Nat}
    (hOnce : b.leastArguments? = some least) (arguments : List Value) (env : Environment)
    (s : Session) :
    Settles (b.isSilent arguments) env s
      (if b = .deleteTrigger ∨ arguments.length < least then s.ledger
        else s.ledger.charge Ledger.apiKey)
      ((b.run engine arguments).perform env s) := by
  by_cases hTrigger : b = .deleteTrigger
  · subst hTrigger
    rw [if_pos (.inl rfl)]
    exact deleteTrigger_settles arguments env s
  · simp only [hTrigger, false_or]
    cases b with
    | deleteTrigger => exact absurd rfl hTrigger
    | sendMessage =>
      cases hOnce
      exact sendMessage_settles arguments env s
    | editMessage =>
      cases hOnce
      exact editMessage_settles arguments env s
    | deleteMessage =>
      cases hOnce
      exact deleteMessage_settles arguments env s
    | giveRoleID =>
      cases hOnce
      exact changeRole_settles arguments env s "giveRoleID" true
    | takeRoleID =>
      cases hOnce
      exact changeRole_settles arguments env s "takeRoleID" false
    | _ => exact nomatch hOnce

section Outcomes

variable {silent : Bool} {env : Environment} {log new : List Event} {result : Except Fault Value}

theorem ActsOnce.calls (h : ActsOnce silent env log result new) :
    callsOf new = [] ∨ ∃ c, callsOf new = [c] ∧ c.isEffect = true := by
  cases h with
  | failed hQuiet => exact .inl hQuiet
  | silent _ hQuiet => exact .inl hQuiet
  | @called c _ _ _ hEffect hQuiet =>
    rw [callsOf_called, hQuiet]
    exact .inr ⟨c, rfl, hEffect⟩

theorem ActsOnce.length_of_ok (h : ActsOnce silent env log result new) {v : Value}
    (hResult : result = .ok v) : (callsOf new).length = if silent then 0 else 1 := by
  cases h with
  | failed _ => exact nomatch hResult
  | silent hSilent hQuiet =>
    rw [hQuiet, if_pos hSilent]
    rfl
  | called hLoud _ hQuiet =>
    rw [callsOf_called, hQuiet, hLoud]
    rfl

theorem ActsOnce.answer_of_error (h : ActsOnce silent env log result new) {fault : Fault}
    (hResult : result = .error fault) :
    callsOf new = [] ∨ ∃ c earlier, new = .called c false :: earlier ∧ callsOf earlier = [] ∧
      env.host.answer (earlier ++ log) c = .error fault := by
  cases h with
  | failed hQuiet => exact .inl hQuiet
  | silent _ hQuiet => exact .inl hQuiet
  | @called c give earlier _ _ hQuiet =>
    rcases hAnswer : env.host.answer (earlier ++ log) c with refusal | reply
    · rw [hAnswer] at hResult
      cases hResult
      exact .inr ⟨c, earlier, rfl, hQuiet, hAnswer⟩
    · rw [hAnswer] at hResult
      exact nomatch hResult

end Outcomes

/-- A function that asks the platform for one thing does all of what it is for or nothing.  It makes
one call at most, and none if it fails for any reason but the answer to this call.  If it succeeds
it has made the call, unless the message to send cannot be seen.  Nothing else changes but the
shared budget, which is charged for one call unless the triggering message is to be deleted or there
are too few arguments. -/
theorem Builtin.acts_once (engine : Engine) {b : Builtin} {least : Nat}
    (hOnce : b.leastArguments? = some least) (arguments : List Value) (env : Environment)
    (s : Session) :
    let (result, after) := (b.run engine arguments).perform env s
    ∃ new,
      after = { s with
        ledger := if b = .deleteTrigger ∨ arguments.length < least then s.ledger
          else s.ledger.charge Ledger.apiKey
        log := new ++ s.log } ∧
      (callsOf new = [] ∨ ∃ c, callsOf new = [c] ∧ c.isEffect = true) ∧
      (∀ v, result = .ok v → (callsOf new).length = if b.isSilent arguments then 0 else 1) ∧
      ∀ fault, result = .error fault → callsOf new = [] ∨
        ∃ c earlier, new = .called c false :: earlier ∧ callsOf earlier = [] ∧
          env.host.answer (earlier ++ s.log) c = .error fault := by
  obtain ⟨new, hAfter, hActs⟩ := b.settles engine hOnce arguments env s
  exact ⟨new, hAfter, hActs.calls, fun _ hOk => hActs.length_of_ok hOk,
    fun _ hError => hActs.answer_of_error hError⟩

/-- The execution of `sampleEnvironment` on a platform that edits no messages. -/
def uneditable : Environment :=
  { sampleEnvironment with host := Rehearsal.host ⟨[], [], 0, ["edit_message"], false, []⟩ }

/-- An edit that the platform refuses is the only call and has been charged.  A message of a blank
is not sent and one that shows is, and both are charged. -/
theorem Builtin.acts_once_messages :
    let edited := (editMessage.run (fun _ => pure "") [.null, .int 5, .text "hello"]).perform
      uneditable uneditable.start
    let blank := (sendMessage.run (fun _ => pure "") [.null, .text " "]).perform sampleEnvironment
      sampleEnvironment.start
    let sent := (sendMessage.run (fun _ => pure "") [.null, .text "hello"]).perform
      sampleEnvironment sampleEnvironment.start
    editMessage.leastArguments? = some 3 ∧ sendMessage.leastArguments? = some 0 ∧
      edited.1 = .error (.platform "edit_message failed") ∧
      callsOf edited.2.log = [.editMessage 10 5 "hello"] ∧
      edited.2.ledger = uneditable.start.ledger.charge Ledger.apiKey ∧
      blank.1 = .ok done ∧ callsOf blank.2.log = [] ∧
      blank.2.ledger = sampleEnvironment.start.ledger.charge Ledger.apiKey ∧
      sent.1 = .ok (.text "1") ∧ callsOf sent.2.log = [.sendMessage 10 "hello"] ∧
      sent.2.ledger = sampleEnvironment.start.ledger.charge Ledger.apiKey := by
  intro edited blank sent
  have hEdit : editMessage.leastArguments? = some 3 := rfl
  have hSend : sendMessage.leastArguments? = some 0 := rfl
  obtain ⟨newEdited, hEdited, -⟩ := Builtin.acts_once (fun _ => pure "") hEdit
    [.null, .int 5, .text "hello"] uneditable uneditable.start
  obtain ⟨newBlank, hBlank, -, hNone, -⟩ := Builtin.acts_once (fun _ => pure "") hSend
    [.null, .text " "] sampleEnvironment sampleEnvironment.start
  obtain ⟨newSent, hSent, -⟩ := Builtin.acts_once (fun _ => pure "") hSend
    [.null, .text "hello"] sampleEnvironment sampleEnvironment.start
  rw [if_neg (by decide)] at hEdited hBlank hSent
  have hBlankLog : blank.2.log = newBlank :=
    (congrArg Session.log hBlank).trans (List.append_nil newBlank)
  have hQuiet : callsOf newBlank = [] := List.length_eq_zero_iff.mp (hNone done rfl)
  exact ⟨hEdit, hSend, rfl, rfl, congrArg Session.ledger hEdited, rfl, hBlankLog ▸ hQuiet,
    congrArg Session.ledger hBlank, rfl, rfl, congrArg Session.ledger hSent⟩

end BotScript
