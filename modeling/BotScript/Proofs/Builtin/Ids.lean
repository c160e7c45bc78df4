import BotScript.Proofs.Delivery
import BotScript.Proofs.IntegerText

/-! The numbers of users, roles and messages.  `Reads` says of a script which values it takes for
such numbers: if one of them is not positive it fails and asks the platform for nothing, and
otherwise its calls name the numbers that it has read.  The rule for two scripts in a row puts the
functions together.  The main statement adds how texts are read and what the platform answers. -/

namespace BotScript

open Script

variable {function : String} {v : Value}

theorem idOf_of_pos (h : 0 < v.toInt.toInt) : idOf function v = .ok v.toInt.toInt.toNat := if_pos h

theorem idOf_of_nonpos (h : v.toInt.toInt ≤ 0) :
    idOf function v = .error (.invalidId function v.print) := if_neg (Int.not_lt.mpr h)

/-! ### Scripts that read numbers -/

/-- What a script has done that reads `values` as numbers for a function.  Every call that it made
obeys `names`.  If one of the values is not positive, it has failed without a call, and it refuses a
number only then. -/
structure Reading (function : String) (values : List Value) (names : Call → Prop) {α : Type}
    (result : Except Fault α) (new : List Event) : Prop where
  calls : ∀ c ∈ callsOf new, names c
  strict : (∃ v ∈ values, v.toInt.toInt ≤ 0) → callsOf new = [] ∧ ∃ fault, result = .error fault
  refused : ∀ f t, result = .error (.invalid (.invalidId f t)) → callsOf new = [] →
    f = function ∧ ∃ v ∈ values, v.toInt.toInt ≤ 0 ∧ v.print = t

/-- A script reads values as numbers in every session. -/
def Reads (function : String) (values : List Value) (names : Call → Prop) {α : Type}
    (x : Script α) : Prop :=
  ∀ env s, ∃ new, (x.perform env s).2.log = new ++ s.log ∧
    Reading function values names (x.perform env s).1 new

/-- A script can give an outcome. -/
def Gives {α : Type} (x : Script α) (a : α) : Prop :=
  ∃ env s after, x.perform env s = (.ok a, after)

/-- A script makes no call and refuses no number. -/
def Quiet {α : Type} (x : Script α) : Prop := ∀ function, Reads function [] (fun _ => False) x

section Reads

variable {α β : Type} {function : String} {values more : List Value} {names : Call → Prop}
  {x : Script α} {g : α → Script β}

theorem Reads.mono (hx : Reads function values (fun _ => False) x) :
    Reads function values names x := by
  intro env s
  obtain ⟨new, hLog, hReading⟩ := hx env s
  exact ⟨new, hLog, fun c hc => (hReading.calls c hc).elim, hReading.strict, hReading.refused⟩

/-- When a script has read its values it has asked for nothing, and others may be read. -/
theorem Reads.bind (hx : Reads function values (fun _ => False) x)
    (hg : ∀ a, Gives x a → Reads function more names (g a)) :
    Reads function (values ++ more) names (x >>= g) := by
  intro env s
  obtain ⟨new, hLog, hReading⟩ := hx env s
  have hQuiet : callsOf new = [] := List.eq_nil_iff_forall_not_mem.mpr hReading.calls
  rw [perform_bind]
  rcases hPerform : x.perform env s with ⟨fault | a, mid⟩
  · rw [hPerform] at hLog hReading
    refine ⟨new, hLog, by simp [hQuiet], fun _ => ⟨hQuiet, fault, rfl⟩, fun f t hResult _ => ?_⟩
    obtain ⟨rfl, v, hv, hRest⟩ := hReading.refused f t (by simpa using hResult) hQuiet
    exact ⟨rfl, v, List.mem_append_left _ hv, hRest⟩
  · rw [hPerform] at hLog hReading
    obtain ⟨later, hLater, hLast⟩ := hg a ⟨env, s, mid, hPerform⟩ env mid
    -- The first script has made no call, so that a refusal by the second still comes before any.
    have hCalls : callsOf (later ++ new) = callsOf later := by
      rw [callsOf_append, hQuiet, List.nil_append]
    refine ⟨later ++ new, by rw [hLater, hLog, List.append_assoc], hCalls ▸ hLast.calls, ?_, ?_⟩
    · rintro ⟨v, hv, hLow⟩
      rw [hCalls]
      rcases List.mem_append.mp hv with hFirst | hSecond
      · obtain ⟨-, fault, hFault⟩ := hReading.strict ⟨v, hFirst, hLow⟩
        exact nomatch hFault
      · exact hLast.strict ⟨v, hSecond, hLow⟩
    · intro f t hResult hNone
      obtain ⟨rfl, v, hv, hRest⟩ := hLast.refused f t hResult (hCalls ▸ hNone)
      exact ⟨rfl, v, List.mem_append_right _ hv, hRest⟩

/-- Once all values have been read, calls follow each other. -/
theorem Reads.then (hx : Reads function [] names x) (hg : ∀ a, Reads function [] names (g a)) :
    Reads function [] names (x >>= g) := by
  intro env s
  obtain ⟨new, hLog, hReading⟩ := hx env s
  rw [perform_bind]
  rcases hPerform : x.perform env s with ⟨fault | a, mid⟩
  · rw [hPerform] at hLog hReading
    exact ⟨new, hLog, hReading.calls, by simp,
      fun f t hResult => hReading.refused f t (by simpa using hResult)⟩
  · rw [hPerform] at hLog hReading
    obtain ⟨later, hLater, hLast⟩ := hg a env mid
    refine ⟨later ++ new, by rw [hLater, hLog, List.append_assoc], fun c hc => ?_, by simp,
      fun f t hResult hNone => ?_⟩
    · rw [callsOf_append] at hc
      rcases List.mem_append.mp hc with hEarlier | hLate
      · exact hReading.calls c hEarlier
      · exact hLast.calls c hLate
    · rw [callsOf_append, List.append_eq_nil_iff] at hNone
      exact hLast.refused f t hResult hNone.2

/-! ### Scripts that read none -/

theorem quiet_of_perform
    (h : ∀ env s, ∃ new, (x.perform env s).2.log = new ++ s.log ∧ callsOf new = [] ∧
      ∀ f t, (x.perform env s).1 ≠ .error (.invalid (.invalidId f t))) : Quiet x := by
  intro function env s
  obtain ⟨new, hLog, hCalls, hFault⟩ := h env s
  exact ⟨new, hLog, by simp [hCalls], by simp, fun f t hResult => absurd hResult (hFault f t)⟩

theorem Quiet.reads (hx : Quiet x) : Reads function [] names x := (hx function).mono

theorem Quiet.bindReads (hx : Quiet x) (hg : ∀ a, Reads function values names (g a)) :
    Reads function values names (x >>= g) := (hx function).bind fun a _ => hg a

theorem Quiet.bind (hx : Quiet x) (hg : ∀ a, Quiet (g a)) : Quiet (x >>= g) :=
  fun function => hx.bindReads fun a => hg a function

theorem quiet_of_same (h : ∀ env s, (x.perform env s).2 = s ∧
    ∀ f t, (x.perform env s).1 ≠ .error (.invalid (.invalidId f t))) : Quiet x :=
  quiet_of_perform fun env s => ⟨[], by rw [(h env s).1]; rfl, rfl, (h env s).2⟩

theorem quiet_pure (a : α) : Quiet (pure a) := quiet_of_same fun _ _ => ⟨rfl, nofun⟩

theorem quiet_ask (f : Environment → α) : Quiet (ask f) := quiet_of_same fun _ _ => ⟨rfl, nofun⟩

theorem quiet_look (f : Session → α) : Quiet (look f) := quiet_of_same fun _ _ => ⟨rfl, nofun⟩

theorem quiet_now : Quiet now := quiet_of_same fun _ _ => ⟨rfl, nofun⟩

theorem quiet_throw {fault : Fault} (h : ∀ f t, fault ≠ .invalid (.invalidId f t)) :
    Quiet (throw fault : Script α) :=
  quiet_of_same fun _ _ => ⟨rfl, fun f t hFault => h f t (Except.error.inj hFault)⟩

theorem quiet_orMissing (what : Missing) (found : Option α) : Quiet (orMissing what found) := by
  cases found with
  | none => exact quiet_throw nofun
  | some a => exact quiet_pure a

theorem quiet_required (arguments : List Value) (least : Nat) :
    Quiet (orMistake (requireArguments function arguments least)) := by
  unfold requireArguments
  split
  · exact quiet_throw nofun
  · exact quiet_pure ()

theorem quiet_editFrame (f : Frame → Frame) : Quiet (editFrame f) :=
  quiet_of_perform fun _ _ => ⟨[], rfl, rfl, nofun⟩

theorem quiet_demand (d : Demand) : Quiet (demand d) := by
  refine quiet_of_perform fun env s => ⟨[_], rfl, rfl, fun f t => ?_⟩
  rw [perform_demand, Ledger.ensure_eq]
  rcases (s.ledger.judge d).1 with _ | _ | _ <;> exact nofun

theorem quiet_channelOf (query : Value) : Quiet (channelOf query) := by
  unfold channelOf
  split
  · exact (quiet_look _).bind fun _ => (quiet_orMissing _ _).bind fun _ => quiet_pure _
  · exact (quiet_ask _).bind fun _ => (quiet_orMissing _ _).bind fun _ => quiet_pure _

theorem quiet_after (delay : Duration) : Quiet (after delay) := by
  refine quiet_now.bind fun start => ?_
  split
  · exact quiet_pure _
  · exact quiet_throw nofun

theorem quiet_afterSeconds (seconds : Nat) : Quiet (afterSeconds seconds) := by
  unfold afterSeconds
  cases Duration.ofSeconds? seconds with
  | none => exact Quiet.bind (quiet_throw nofun) fun _ => quiet_after _
  | some delay => exact quiet_after delay

/-! ### Numbers and calls -/

theorem reads_call {c : Call} (hNames : names c) : Reads function [] names (call c) := by
  intro env s
  refine ⟨[_], rfl, fun c' hc' => ?_, by simp, fun f t _ hNone => nomatch hNone⟩
  rw [callsOf_called, List.mem_append] at hc'
  obtain rfl : c' = c := by simpa [callsOf] using hc'
  exact hNames

theorem reads_forM {l : List β} {act : β → Script PUnit}
    (h : ∀ b ∈ l, Reads function [] names (act b)) : Reads function [] names (l.forM act) := by
  induction l with
  | nil => exact (quiet_pure PUnit.unit).reads
  | cons b l ih =>
    exact (h b List.mem_cons_self).then fun _ => ih fun b' hb' => h b' (List.mem_cons_of_mem b hb')

theorem mapM_idOf (function : String) (vs : List Value) :
    (∀ v ∈ vs, 0 < v.toInt.toInt) ∧
      vs.mapM (idOf function) = .ok (vs.map fun v => v.toInt.toInt.toNat) ∨
    ∃ v ∈ vs, v.toInt.toInt ≤ 0 ∧
      vs.mapM (idOf function) = .error (.invalidId function v.print) := by
  induction vs with
  | nil => exact .inl ⟨nofun, rfl⟩
  | cons v vs ih =>
    rw [List.mapM_cons]
    by_cases hFirst : 0 < v.toInt.toInt
    · rw [idOf_of_pos hFirst]
      rcases ih with ⟨hAll, hRest⟩ | ⟨w, hw, hLow, hRest⟩
      · exact .inl ⟨List.forall_mem_cons.mpr ⟨hFirst, hAll⟩, by rw [hRest]; rfl⟩
      · exact .inr ⟨w, List.mem_cons_of_mem v hw, hLow, by rw [hRest]; rfl⟩
    · have hLow := Int.not_lt.mp hFirst
      exact .inr ⟨v, List.mem_cons_self, hLow, by rw [idOf_of_nonpos hLow]; rfl⟩

/-- Reading fails because of one of the values, or not at all. -/
theorem reads_orMistake {r : Except Mistake α}
    (h : (∀ v ∈ values, 0 < v.toInt.toInt) ∧ (∃ a, r = .ok a) ∨
      ∃ v ∈ values, v.toInt.toInt ≤ 0 ∧ r = .error (.invalidId function v.print)) :
    Reads function values (fun _ => False) (orMistake r) := by
  intro env s
  rcases h with ⟨hAll, a, rfl⟩ | ⟨v, hv, hLow, rfl⟩
  · refine ⟨[], rfl, by simp [callsOf], ?_, nofun⟩
    rintro ⟨v, hv, hLow⟩
    exact absurd (hAll v hv) (Int.not_lt.mpr hLow)
  · refine ⟨[], rfl, by simp [callsOf], fun _ => ⟨rfl, _, rfl⟩, ?_⟩
    rintro _ _ ⟨⟩ -
    exact ⟨rfl, v, hv, hLow, rfl⟩

theorem reads_mapM_idOf (function : String) (vs : List Value) :
    Reads function vs (fun _ => False) (orMistake (vs.mapM (idOf function))) :=
  reads_orMistake ((mapM_idOf function vs).imp (And.imp_right fun hOk => ⟨_, hOk⟩) id)

theorem reads_idOf (function : String) (v : Value) :
    Reads function [v] (fun _ => False) (orMistake (idOf function v)) := by
  refine reads_orMistake ?_
  by_cases h : 0 < v.toInt.toInt
  · exact .inl ⟨List.forall_mem_singleton.mpr h, _, idOf_of_pos h⟩
  · have hLow := Int.not_lt.mp h
    exact .inr ⟨v, List.mem_singleton_self v, hLow, idOf_of_nonpos hLow⟩

theorem eq_ok_of_gives {r : Except Mistake α} {a : α} (h : Gives (orMistake r) a) : r = .ok a := by
  obtain ⟨env, s, _, hPerform⟩ := h
  cases r with
  | error mistake => exact nomatch hPerform
  | ok a =>
    cases hPerform
    rfl

theorem mem_of_mapM_idOf {vs : List Value} {ns : List Nat} (h : vs.mapM (idOf function) = .ok ns)
    {n : Nat} : n ∈ ns ↔ ∃ v ∈ vs, idOf function v = .ok n := by
  rcases mapM_idOf function vs with ⟨hAll, hOk⟩ | ⟨v, hv, hLow, hError⟩
  · obtain rfl := Except.ok.inj (hOk.symm.trans h)
    rw [List.mem_map]
    refine exists_congr fun v => and_congr_right fun hv => ?_
    rw [idOf_of_pos (hAll v hv), Except.ok.injEq]
  · exact nomatch hError.symm.trans h

end Reads

/-! ### The functions -/

/-- What a number is the number of. -/
inductive IdKind
  | message
  | user
  | role

/-- The number of a kind that a call names. -/
def Call.id? : IdKind → Call → Option Nat
  | .message, editMessage _ message _ | .message, deleteMessage _ message => some message
  | .message, addReaction _ message _ | .message, removeReaction _ message _ _ => some message
  | .message, scheduleDeleteMessage _ _ message _ => some message
  | .user, removeReaction _ _ user _ | .user, addRole _ user _ | .user, removeRole _ user _ =>
    some user
  | .user, scheduleAddRole _ user _ _ | .user, scheduleRemoveRole _ user _ _ => some user
  | .role, addRole _ _ role | .role, removeRole _ _ role => some role
  | .role, scheduleAddRole _ _ role _ | .role, scheduleRemoveRole _ _ role _ => some role
  | _, _ => none

namespace Builtin

/-- Whether a function refuses arguments that are no numbers of messages, users or roles. -/
def takesIds : Builtin → Bool
  | addMessageReactions | deleteMessage | deleteMessageReaction | editMessage => true
  | giveRoleID | mentionRoleID | setRoles | takeRoleID => true
  | _ => false

/-- The arguments that a function reads as the numbers of a kind. -/
def idArguments (b : Builtin) (arguments : List Value) (kind : IdKind) : List Value :=
  match b, kind with
  | addMessageReactions, .message | deleteMessage, .message => [argument arguments 1]
  | deleteMessageReaction, .message | editMessage, .message => [argument arguments 1]
  | deleteMessageReaction, .user => [argument arguments 2]
  | giveRoleID, .user | takeRoleID, .user | setRoles, .user => [argument arguments 0]
  | giveRoleID, .role | takeRoleID, .role => [argument arguments 1]
  | setRoles, .role => flatten true (arguments.drop 1)
  | mentionRoleID, .role => [argument arguments 0]
  | _, _ => []

/-- All arguments that a function reads as numbers. -/
def allIdArguments (b : Builtin) (arguments : List Value) : List Value :=
  b.idArguments arguments .message ++ b.idArguments arguments .user ++ b.idArguments arguments .role

/-- A call names numbers that a function has read from its arguments.  Only the roles that are taken
away when the roles of a member are replaced are others. -/
def Names (b : Builtin) (arguments : List Value) (c : Call) : Prop :=
  ∀ kind, ∀ n ∈ c.id? kind,
    (∃ v ∈ b.idArguments arguments kind, idOf b.name v = .ok n) ↔
      ¬(b = setRoles ∧ kind = .role ∧ ∃ guild user role, c = .removeRole guild user role)

/-- A call names what a function that removes no unwanted roles has read. -/
theorem names_of_ne_setRoles {b : Builtin} (hOther : b ≠ setRoles) {arguments : List Value}
    {c : Call}
    (h : ∀ kind, ∀ n ∈ c.id? kind, ∃ v ∈ b.idArguments arguments kind, idOf b.name v = .ok n) :
    b.Names arguments c :=
  fun kind n hn => iff_of_true (h kind n hn) fun hReplaces => hOther hReplaces.1

end Builtin

section Functions

variable (arguments : List Value)

theorem reads_eachReaction {function : String} {names : Call → Prop} (key : String)
    (emojis : List String) {act : String → Script Unit}
    (h : ∀ emoji, Reads function [] names (act emoji)) :
    Reads function [] names (eachReaction key emojis act) := by
  unfold eachReaction
  refine Reads.then (reads_forM fun emoji _ => ?_) fun _ => (quiet_pure done).reads
  exact (quiet_demand _).reads.then fun _ => h emoji

/-- What a function does once it has a message. -/
theorem names_message {b : Builtin} (hOther : b ≠ .setRoles)
    (hPlace : b.idArguments arguments .message = [argument arguments 1]) {message : Nat}
    (hMessage : Gives (orMistake (idOf b.name (argument arguments 1))) message) {c : Call}
    (hCall : c.id? .message = some message ∧ c.id? .user = none ∧ c.id? .role = none) :
    b.Names arguments c := by
  obtain ⟨hFirst, hUser, hRole⟩ := hCall
  refine Builtin.names_of_ne_setRoles hOther fun kind n hn => ?_
  cases kind with
  | message =>
    rw [hFirst] at hn
    cases hn
    exact ⟨_, hPlace ▸ List.mem_singleton_self _, eq_ok_of_gives hMessage⟩
  | user => exact nomatch hUser ▸ hn
  | role => exact nomatch hRole ▸ hn

theorem editMessage_reads :
    Reads "editMessage" [argument arguments 1] (Builtin.editMessage.Names arguments)
      (editMessage arguments) := by
  refine (quiet_required arguments 3).bindReads fun _ => (quiet_demand _).bindReads fun _ =>
    (quiet_channelOf _).bindReads fun channel => (reads_idOf _ _).bind fun message hMessage =>
    Reads.then (reads_call ?_) fun _ => (quiet_pure done).reads
  exact names_message (b := .editMessage) arguments nofun rfl hMessage ⟨rfl, rfl, rfl⟩

theorem deleteMessage_reads :
    Reads "deleteMessage" [argument arguments 1] (Builtin.deleteMessage.Names arguments)
      (deleteMessage arguments) := by
  refine (quiet_required arguments 2).bindReads fun _ => (quiet_demand _).bindReads fun _ =>
    (quiet_channelOf _).bindReads fun channel => (reads_idOf _ _).bind fun message hMessage =>
    (quiet_ask _).bindReads fun limits => ?_
  have hNames {c : Call} :=
    names_message (b := .deleteMessage) arguments (c := c) nofun rfl hMessage
  have hLast : Reads "deleteMessage" [] (Builtin.deleteMessage.Names arguments)
      (pure done : Script Value) := (quiet_pure done).reads
  simp only
  split
  · exact (reads_call (hNames ⟨rfl, rfl, rfl⟩)).then fun _ => hLast
  · exact (quiet_afterSeconds _).bindReads fun due => (quiet_ask _).bindReads fun guild =>
      (reads_call (hNames ⟨rfl, rfl, rfl⟩)).then fun _ => hLast

theorem addMessageReactions_reads :
    Reads "addMessageReactions" [argument arguments 1]
      (Builtin.addMessageReactions.Names arguments) (addMessageReactions arguments) := by
  refine (quiet_required arguments 2).bindReads fun _ =>
    (quiet_channelOf _).bindReads fun channel => (reads_idOf _ _).bind fun message hMessage =>
    reads_eachReaction _ _ fun emoji => reads_call ?_
  exact names_message (b := .addMessageReactions) arguments nofun rfl hMessage ⟨rfl, rfl, rfl⟩

theorem deleteMessageReaction_reads :
    Reads "deleteMessageReaction" [argument arguments 1, argument arguments 2]
      (Builtin.deleteMessageReaction.Names arguments) (deleteMessageReaction arguments) := by
  refine (quiet_required arguments 3).bindReads fun _ =>
    (quiet_channelOf _).bindReads fun channel => (reads_idOf _ _).bind fun message hMessage =>
    (reads_idOf _ _).bind fun user hUser => reads_eachReaction _ _ fun emoji => reads_call ?_
  refine Builtin.names_of_ne_setRoles (by decide) fun kind n hn => ?_
  cases kind <;> cases hn
  · exact ⟨_, List.mem_singleton_self _, eq_ok_of_gives hMessage⟩
  · exact ⟨_, List.mem_singleton_self _, eq_ok_of_gives hUser⟩

/-- A call that changes one role of one user names what was read for them. -/
theorem names_change {b : Builtin} (hGives : b = .giveRoleID ∨ b = .takeRoleID) {user role : Nat}
    (hUser : idOf b.name (argument arguments 0) = .ok user)
    (hRole : idOf b.name (argument arguments 1) = .ok role) {c : Call}
    (hCall : c.id? .message = none ∧ c.id? .user = some user ∧ c.id? .role = some role) :
    b.Names arguments c := by
  obtain ⟨hNone, hFirst, hSecond⟩ := hCall
  have hOther : b ≠ .setRoles := by rintro rfl; exact hGives.elim nofun nofun
  refine Builtin.names_of_ne_setRoles hOther fun kind n hn => ?_
  cases kind with
  | message => exact nomatch hNone ▸ hn
  | user =>
    rw [hFirst] at hn
    cases hn
    rcases hGives with rfl | rfl <;> exact ⟨_, List.mem_singleton_self _, hUser⟩
  | role =>
    rw [hSecond] at hn
    cases hn
    rcases hGives with rfl | rfl <;> exact ⟨_, List.mem_singleton_self _, hRole⟩

theorem changeRole_reads {b : Builtin} {give : Bool}
    (hGives : b = .giveRoleID ∨ b = .takeRoleID) :
    Reads b.name [argument arguments 0, argument arguments 1] (b.Names arguments)
      (changeRole b.name give arguments) := by
  refine (quiet_required arguments 2).bindReads fun _ => (quiet_demand _).bindReads fun _ =>
    (reads_idOf _ _).bind fun user hUser => (reads_idOf _ _).bind fun role hRole =>
    (quiet_ask _).bindReads fun guild => ?_
  have hNames {c : Call} := names_change arguments (c := c) hGives (eq_ok_of_gives hUser)
    (eq_ok_of_gives hRole)
  have hLast : Reads b.name [] (b.Names arguments) (pure done : Script Value) :=
    (quiet_pure done).reads
  simp only
  split
  · refine (quiet_after _).bindReads fun due => ?_
    cases give <;> exact (reads_call (hNames ⟨rfl, rfl, rfl⟩)).then fun _ => hLast
  · cases give <;> exact (reads_call (hNames ⟨rfl, rfl, rfl⟩)).then fun _ => hLast

theorem setRoles_reads :
    Reads "setRoles" (argument arguments 0 :: flatten true (arguments.drop 1))
      (Builtin.setRoles.Names arguments) (setRoles arguments) := by
  rw [← List.append_nil (flatten true (arguments.drop 1))]
  refine (quiet_required arguments 1).bindReads fun _ => (reads_idOf _ _).bind fun user hUser =>
    (quiet_demand _).bindReads fun _ => (quiet_demand _).bindReads fun _ =>
    (reads_mapM_idOf _ _).bind fun wanted hWanted => (quiet_ask _).bindReads fun known =>
    (quiet_orMissing _ _).bindReads fun member => (quiet_ask _).bindReads fun guild => ?_
  have hRoles {role : Nat} := mem_of_mapM_idOf (eq_ok_of_gives hWanted) (n := role)
  have hMember : ∃ v ∈ Builtin.setRoles.idArguments arguments .user, idOf "setRoles" v = .ok user :=
    ⟨_, List.mem_singleton_self _, eq_ok_of_gives hUser⟩
  refine Reads.then (reads_forM fun role hRole => reads_call fun kind n hn => ?_) fun _ =>
    Reads.then (reads_forM fun role hRole => reads_call fun kind n hn => ?_) fun _ =>
    (quiet_pure done).reads
  -- The roles that are added are among those that were read, and those that are taken away are not.
  · have hAdded : role ∈ wanted := (List.mem_filter.mp hRole).1
    cases kind <;> cases hn
    · exact iff_of_true hMember nofun
    · exact iff_of_true (hRoles.mp hAdded) nofun
  · have hRemoved : role ∉ wanted := by simpa using (List.mem_filter.mp hRole).2
    cases kind <;> cases hn
    · exact iff_of_true hMember nofun
    · exact iff_of_false (fun hKept => hRemoved (hRoles.mpr hKept))
        (not_not_intro ⟨rfl, rfl, guild, user, role, rfl⟩)

theorem mentionRole_reads :
    Reads "mentionRoleID" [argument arguments 0] (Builtin.mentionRoleID.Names arguments)
      (mentionRole arguments) :=
  (reads_idOf _ _).bind fun _ _ => (quiet_editFrame _).bindReads fun _ => (quiet_pure _).reads

end Functions

/-- Every function that takes numbers of messages, users or roles reads all its arguments that are
to be such numbers. -/
theorem Builtin.reads (engine : Engine) {b : Builtin} (hTakes : b.takesIds = true)
    (arguments : List Value) :
    Reads b.name (b.allIdArguments arguments) (b.Names arguments) (b.run engine arguments) := by
  cases b with
  | addMessageReactions => exact addMessageReactions_reads arguments
  | deleteMessage => exact deleteMessage_reads arguments
  | deleteMessageReaction => exact deleteMessageReaction_reads arguments
  | editMessage => exact editMessage_reads arguments
  | giveRoleID => exact changeRole_reads arguments (.inl rfl)
  | mentionRoleID => exact mentionRole_reads arguments
  | setRoles => exact setRoles_reads arguments
  | takeRoleID => exact changeRole_reads arguments (.inr rfl)
  | _ => exact absurd hTakes Bool.false_ne_true

/-! ### Numbers that the platform gives -/

section Answers

variable {arguments : List Value} {env : Environment} {s after : Session} {v : Value}

/-- A message that is sent gives its number, and one that cannot be seen gives nothing. -/
theorem sendMessage_answer (h : (sendMessage arguments).perform env s = (.ok v, after)) :
    (v = done ∧ isAllBlank (argument arguments 1).toText = true) ∨
      ∃ log channel id,
        env.host.answer log (.sendMessage channel (argument arguments 1).toText) = .ok id ∧
          v = .text (toString id) := by
  obtain ⟨_, s1, -, hRest⟩ := perform_bind_eq_ok.mp h
  obtain ⟨channel, s2, -, hRest⟩ := perform_bind_eq_ok.mp hRest
  rcases hBlank : isAllBlank (argument arguments 1).toText with _ | _
  · simp only [hBlank] at hRest
    obtain ⟨id, s3, hCall, hLast⟩ := perform_bind_eq_ok.mp hRest
    obtain ⟨hAnswer, -⟩ := perform_call_eq_ok hCall
    cases hLast
    exact .inr ⟨s2.log, channel, id, hAnswer, rfl⟩
  · simp only [hBlank] at hRest
    cases hRest
    exact .inl ⟨rfl, rfl⟩

/-- A nested call gives the number of the message that its output became, or nothing. -/
theorem nested_answer {engine : Engine} {name : String} {target : Target}
    (h : (nested engine name target arguments).perform env s = (.ok v, after)) :
    v = done ∨ ∃ log frame output id,
      env.host.answer log (.sendResponse frame output) = .ok (some id) ∧
        v = .text (toString id) := by
  rcases hStart : bodyStart? name target arguments env s with _ | ⟨t, start⟩
  · obtain ⟨fault, bag, hFails, -⟩ := perform_nested_of_none name target arguments env s hStart
    rw [hFails engine] at h
    exact nomatch h
  rw [perform_nested_of_start name target arguments env s engine hStart] at h
  rcases hBody : (engine t).perform env start with ⟨outcome, last⟩
  rcases hDeliver : (deliver outcome).perform env (last.noting (.ended last.frame)) with
    ⟨answer, sent⟩
  simp only [hBody, hDeliver] at h
  obtain ⟨rfl, -⟩ := Prod.mk.inj h
  obtain ⟨output, calls, id, -, hDelivered, rfl, -⟩ := delivered_of_deliver hDeliver
  cases hDelivered with
  | nothing _ => exact .inl rfl
  | message _ hAnswer =>
    cases id with
    | none => exact .inl rfl
    | some id => exact .inr ⟨_, _, output, id, hAnswer, rfl⟩

end Answers

/-- The number of a message is read back from its text. -/
theorem idOf_text_toString {id : Nat} (hLow : 1 ≤ id) (hHigh : id < 2 ^ 63) (function : String) :
    idOf function (.text (toString id)) = .ok id := by
  have hRead := Value.toInt_text_of_number hHigh
  rw [idOf_of_pos (by omega), hRead, Int.toNat_natCast]

/-- A role is mentioned by its number. -/
theorem perform_mentionRole {arguments : List Value} {env : Environment} {s : Session} {role : Nat}
    (hRole : idOf "mentionRoleID" (argument arguments 0) = .ok role) :
    (mentionRole arguments).perform env s =
      (.ok (.text ("<@&" ++ toString role ++ ">")),
        { s with frame := s.frame.mentionRole role }) := by
  unfold mentionRole
  rw [hRole]
  rfl

/-- A role is looked for by its number. -/
theorem perform_hasRole (arguments : List Value) (env : Environment) (s : Session) :
    (hasRole arguments).perform env s =
      (.ok (.bool (decide (∃ m ∈ env.trigger.member, ∃ role ∈ m.roles,
        (role : Int) = (argument arguments 0).toInt.toInt))), s) := by
  unfold hasRole
  simp only [perform_bind, perform_ask, perform_pure]
  cases env.trigger.member with
  | none => simp
  | some m => simp [List.any_eq]

/-- Text is read as the integer that it is, in base 10 or 16, if it is one of 64 bits, and as zero
otherwise, and the text of an integer is read back as it.  What a sent message or a nested call
gives is nothing or the text of the number that the platform answered, and from 1 to `2 ^ 63 - 1`
this text is read back as the number.  Nothing that counts as zero or less is a number.  Functions
that take numbers of messages, users and roles name just those that they read from their arguments,
and with an argument that is none they fail before they ask the platform for anything. -/
theorem integers_read_back (engine : Engine) :
    (∀ s, ReadsAs 10 s (Value.text s).toInt ∧ ReadsAs 16 s (Value.text s).toHexInt) ∧
    (∀ n : Int64, (Value.text (Value.int n).toText).toInt = n) ∧
    (∀ arguments env s v after,
      (Builtin.sendMessage.run engine arguments).perform env s = (.ok v, after) →
      (v = done ∧ isAllBlank (argument arguments 1).toText = true) ∨ ∃ log channel id,
        env.host.answer log (.sendMessage channel (argument arguments 1).toText) = .ok id ∧
          v = .text (toString id)) ∧
    (∀ name target arguments env s v after,
      (nested engine name target arguments).perform env s = (.ok v, after) →
      v = done ∨ ∃ log frame output id,
        env.host.answer log (.sendResponse frame output) = .ok (some id) ∧
          v = .text (toString id)) ∧
    (∀ id : Nat, 1 ≤ id → id < 2 ^ 63 → (Value.text (toString id)).toInt.toInt = id ∧
      ∀ function, idOf function (.text (toString id)) = .ok id) ∧
    (∀ function v, v.toInt.toInt ≤ 0 → idOf function v = .error (.invalidId function v.print)) ∧
    (∀ b : Builtin, b.takesIds = true → ∀ arguments env s,
      let (result, after) := (b.run engine arguments).perform env s
      ∃ new, after.log = new ++ s.log ∧
        Reading b.name (b.allIdArguments arguments) (b.Names arguments) result new) ∧
    (∀ arguments env s role, idOf "mentionRoleID" (argument arguments 0) = .ok role →
      (Builtin.mentionRoleID.run engine arguments).perform env s =
        (.ok (.text ("<@&" ++ toString role ++ ">")),
          { s with frame := s.frame.mentionRole role })) ∧
    ∀ arguments env s, (Builtin.hasRoleID.run engine arguments).perform env s =
      (.ok (.bool (decide (∃ m ∈ env.trigger.member, ∃ role ∈ m.roles,
        (role : Int) = (argument arguments 0).toInt.toInt))), s) := by
  refine ⟨fun s => ⟨?_, ?_⟩, Value.toInt_text_toText, fun _ _ _ _ _ => sendMessage_answer,
    fun _ _ _ _ _ _ _ => nested_answer,
    fun id hLow hHigh => ⟨Value.toInt_text_of_number hHigh, idOf_text_toString hLow hHigh⟩,
    fun _ _ => idOf_of_nonpos, fun b hTakes arguments => b.reads engine hTakes arguments,
    fun _ _ _ _ => perform_mentionRole, perform_hasRole⟩
  · exact readsAs_readInt64? (by decide) (by decide) s
  · exact readsAs_readInt64? (by decide) (by decide) s

/-- The number of a message that was sent is the one that is edited. -/
theorem integers_read_back_sent :
    ∃ after, (Builtin.sendMessage.run (fun _ => pure "") [.null, .text "hello"]).perform
        sampleEnvironment sampleEnvironment.start = (.ok (.text "1"), after) ∧
      idOf "editMessage" (.text "1") = .ok 1 ∧
      ∃ new, ((Builtin.editMessage.run (fun _ => pure "") [.null, .text "1", .text "bye"]).perform
          sampleEnvironment after).2.log = new ++ after.log ∧
        callsOf new = [.editMessage 10 1 "bye"] ∧
        ∀ c ∈ callsOf new, ∀ n ∈ c.id? .message, n = 1 := by
  have hRun : ∃ after, (Builtin.sendMessage.run (fun _ => pure "") [.null, .text "hello"]).perform
        sampleEnvironment sampleEnvironment.start = (.ok (.text "1"), after) ∧
      ((Builtin.editMessage.run (fun _ => pure "") [.null, .text "1", .text "bye"]).perform
        sampleEnvironment after).2.log =
          [.called (.editMessage 10 1 "bye") true, .demanded .apiCall true] ++ after.log :=
    ⟨_, rfl, rfl⟩
  obtain ⟨after, hSent, hEdited⟩ := hRun
  obtain ⟨-, -, -, -, hBack, -, hReads, -⟩ := integers_read_back fun _ => pure ""
  have hId := (hBack 1 (by decide) (by decide)).2
  obtain ⟨new, hLog, hReading⟩ := hReads .editMessage rfl [.null, .text "1", .text "bye"]
    sampleEnvironment after
  have hNew : new = [.called (.editMessage 10 1 "bye") true, .demanded .apiCall true] :=
    (List.append_left_inj after.log).mp (hLog.symm.trans hEdited)
  refine ⟨after, hSent, hId _, new, hLog, by rw [hNew]; rfl, fun c hc n hn => ?_⟩
  obtain ⟨v, hv, hNumber⟩ := (hReading.calls c hc .message n hn).mpr nofun
  obtain rfl := List.mem_singleton.mp hv
  exact Except.ok.inj (hNumber.symm.trans (hId _))

end BotScript
