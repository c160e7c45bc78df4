import BotScript.Proofs.Builtin.Budget

/-! How far the functions that deal with reactions get.  Each goes through its emojis in order and
counts every one before it deals with it, and stops at the first for which its budget is used up or
which the platform refuses.  The main statement says what has happened then: the emojis before that
one have been dealt with and no other, and the refused one is counted too.  A call whose other
arguments are not valid does nothing at all. -/

namespace BotScript

open Script

/-- How a function deals with an emoji: it asks the platform for something, or adds the emoji to the
response. -/
inductive Handling
  | asks (request : String → Call)
  | notes

namespace Handling

def request? : Handling → String → Option Call
  | asks request, emoji => some (request emoji)
  | notes, _ => none

def act : Handling → String → Script Unit
  | asks request, emoji => do let _ ← call (request emoji)
  | notes, emoji => editFrame fun f => { f with reactions := f.reactions ++ [emoji] }

def noted : Handling → Frame → List String → Frame
  | asks _, frame, _ => frame
  | notes, frame, emojis => { frame with reactions := frame.reactions ++ emojis }

/-- The session in which one more emoji has been counted, within the budget. -/
def counted (key : String) (s : Session) : Session :=
  { s with
    ledger := s.ledger.charge key
    log := .demanded (.calls key maxReactions) true :: s.log }

def dealt (key : String) : Handling → Session → String → Session
  | asks request, s, emoji =>
    { counted key s with log := .called (request emoji) true :: (counted key s).log }
  | notes, s, emoji => { counted key s with frame := notes.noted s.frame [emoji] }

/-- The session in which emojis have been counted and dealt with, in their order. -/
def dealtAll (key : String) (h : Handling) (s : Session) (emojis : List String) : Session :=
  emojis.foldl (h.dealt key) s

end Handling

def Event.doneCall? : Event → Option Call
  | .called c true => some c
  | _ => none

/-- The calls of the platform that succeeded, in the order in which they were made. -/
def doneCalls (log : List Event) : List Call := (log.filterMap Event.doneCall?).reverse

theorem doneCalls_done (c : Call) (log : List Event) :
    doneCalls (.called c true :: log) = doneCalls log ++ [c] := by
  simp [doneCalls, Event.doneCall?]

theorem doneCalls_of_none {e : Event} (h : e.doneCall? = none) (log : List Event) :
    doneCalls (e :: log) = doneCalls log := by
  simp [doneCalls, h]

namespace Handling

variable (key : String) (h : Handling) (s : Session) (emojis : List String)

theorem dealtAll_cons (emoji : String) :
    h.dealtAll key s (emoji :: emojis) = h.dealtAll key (h.dealt key s emoji) emojis := rfl

theorem count_dealt (emoji : String) : (h.dealt key s emoji).ledger.count key =
    min Ledger.maxCount (s.ledger.count key + 1) := by
  rw [← Ledger.count_charge_self]
  cases h <;> rfl

theorem frame_dealtAll : (h.dealtAll key s emojis).frame = h.noted s.frame emojis := by
  induction emojis generalizing s with
  | nil => cases h <;> simp [dealtAll, noted]
  | cons emoji rest ih =>
    rw [dealtAll_cons, ih]
    cases h <;> simp [dealt, noted, counted]

theorem doneCalls_dealtAll : doneCalls (h.dealtAll key s emojis).log =
    doneCalls s.log ++ emojis.filterMap h.request? := by
  induction emojis generalizing s with
  | nil => simp [dealtAll]
  | cons emoji rest ih =>
    rw [dealtAll_cons, ih]
    cases h with
    | asks request =>
      have hLog : doneCalls (((asks request).dealt key s emoji).log) =
          doneCalls s.log ++ [request emoji] := by
        rw [← doneCalls_of_none (e := .demanded (.calls key maxReactions) true) rfl]
        exact doneCalls_done _ _
      have hFirst : (emoji :: rest).filterMap (asks request).request? =
          request emoji :: rest.filterMap (asks request).request? := List.filterMap_cons_some rfl
      rw [hLog, hFirst, List.append_assoc]
      rfl
    | notes =>
      have hLog : doneCalls ((notes.dealt key s emoji).log) = doneCalls s.log :=
        doneCalls_of_none rfl s.log
      have hFirst : (emoji :: rest).filterMap notes.request? = rest.filterMap notes.request? :=
        List.filterMap_cons_none rfl
      rw [hLog, hFirst]

end Handling

/-! ### The loop -/

section Loop

variable (key : String) (h : Handling) (env : Environment) (s : Session)

def Handling.overdrawn : Session :=
  { s with
    ledger := s.ledger.charge key
    log := .demanded (.calls key maxReactions) false :: s.log }

/-- A step of the loop stops: the budget is used up, or the platform refuses what it is asked. -/
inductive Stopped (emoji : String) : Fault → Session → Prop
  | exhausted (hFull : maxReactions ≤ s.ledger.count key) :
      Stopped emoji (.exhausted .calls) (Handling.overdrawn key s)
  | refused {c : Call} {fault : Fault} (hRoom : s.ledger.count key < maxReactions)
      (hCall : h.request? emoji = some c)
      (hAnswer : env.host.answer (Handling.counted key s).log c = .error fault) :
      Stopped emoji fault
        { Handling.counted key s with log := .called c false :: (Handling.counted key s).log }

/-- A step of the loop goes on: there is room in the budget, and the platform refuses nothing. -/
structure GoesOn (emoji : String) : Prop where
  room : s.ledger.count key < maxReactions
  granted : ∀ c fault, h.request? emoji = some c →
    env.host.answer (Handling.counted key s).log c ≠ .error fault

variable (emoji : String)

theorem perform_reactionStep_of_full (hFull : maxReactions ≤ s.ledger.count key) :
    (reactionStep key h.act emoji).perform env s =
      (.error (.exhausted .calls), Handling.overdrawn key s) := by
  rw [reactionStep, perform_bind, perform_demand_reaction, if_pos hFull, decide_eq_true hFull]
  rfl

theorem perform_reactionStep_of_room (hRoom : s.ledger.count key < maxReactions) :
    (reactionStep key h.act emoji).perform env s =
      (h.act emoji).perform env (Handling.counted key s) := by
  have hNotFull : ¬maxReactions ≤ s.ledger.count key := Nat.not_le.mpr hRoom
  rw [reactionStep, perform_bind, perform_demand_reaction, if_neg hNotFull,
    decide_eq_false hNotFull]
  rfl

theorem perform_reactionStep :
    (∃ fault last, Stopped key h env s emoji fault last ∧
      (reactionStep key h.act emoji).perform env s = (.error fault, last)) ∨
    (GoesOn key h env s emoji ∧
      (reactionStep key h.act emoji).perform env s = (.ok (), h.dealt key s emoji)) := by
  rcases Nat.lt_or_ge (s.ledger.count key) maxReactions with hRoom | hFull
  · rw [perform_reactionStep_of_room key h env s emoji hRoom]
    cases h with
    | notes =>
      right
      exact ⟨⟨hRoom, fun c fault hCall => by simp [Handling.request?] at hCall⟩, rfl⟩
    | asks request =>
      simp only [Handling.act, perform_bind, perform_call, perform_pure]
      rcases hAnswer : env.host.answer (Handling.counted key s).log (request emoji) with
        fault | reply
      · left
        exact ⟨fault, _, .refused hRoom rfl hAnswer, rfl⟩
      · right
        refine ⟨⟨hRoom, fun c fault hCall hFails => ?_⟩, rfl⟩
        obtain rfl : request emoji = c := Option.some.inj hCall
        rw [hAnswer] at hFails
        exact nomatch hFails
  · left
    exact ⟨_, _, .exhausted hFull, perform_reactionStep_of_full key h env s emoji hFull⟩

/-- The loop deals with a prefix of its emojis, and stops at the one that follows, if there is
one. -/
theorem perform_loop (emojis : List String) :
    ∃ dealt rest, emojis = dealt ++ rest ∧
      (∀ earlier emoji later, dealt = earlier ++ emoji :: later →
        GoesOn key h env (h.dealtAll key s earlier) emoji) ∧
      ((rest = [] ∧ (emojis.forM (reactionStep key h.act)).perform env s =
          (.ok (), h.dealtAll key s dealt)) ∨
        ∃ emoji later fault last, rest = emoji :: later ∧
          Stopped key h env (h.dealtAll key s dealt) emoji fault last ∧
          (emojis.forM (reactionStep key h.act)).perform env s = (.error fault, last)) := by
  induction emojis generalizing s with
  | nil => exact ⟨[], [], rfl, by simp, .inl ⟨rfl, rfl⟩⟩
  | cons emoji rest ih =>
    have hLoop : ((emoji :: rest).forM (reactionStep key h.act)).perform env s =
        (reactionStep key h.act emoji >>= fun _ =>
          rest.forM (reactionStep key h.act)).perform env s := rfl
    rw [hLoop, perform_bind]
    rcases perform_reactionStep key h env s emoji with
      ⟨fault, last, hStopped, hStep⟩ | ⟨hGoesOn, hStep⟩
    · rw [hStep]
      exact ⟨[], emoji :: rest, rfl, by simp,
        .inr ⟨emoji, rest, fault, last, rfl, hStopped, rfl⟩⟩
    · -- What the rest deals with comes after this emoji, from the session that it leaves.
      rw [hStep]
      obtain ⟨dealt, more, rfl, hDealt, hEnd⟩ := ih (h.dealt key s emoji)
      refine ⟨emoji :: dealt, more, rfl, fun earlier next later hSplit => ?_, hEnd⟩
      cases earlier with
      | nil =>
        obtain ⟨rfl, -⟩ := List.cons.inj hSplit
        exact hGoesOn
      | cons first earlier =>
        obtain ⟨rfl, hTail⟩ := List.cons.inj hSplit
        exact hDealt earlier next later hTail

end Loop

/-! ### Where the loop stops -/

section Places

variable (key : String) (h : Handling) (env : Environment) (s : Session) (emojis : List String)

/-- The platform refuses the emoji at place `j`, counted from one, when those before it have been
dealt with. -/
def Refuses (j : Nat) (fault : Fault) : Prop :=
  ∃ emoji c, emojis[j - 1]? = some emoji ∧ h.request? emoji = some c ∧
    env.host.answer (Handling.counted key (h.dealtAll key s (emojis.take (j - 1)))).log c =
      .error fault

/-- There is no dealing with the emoji at place `j`: the budget does not reach so far, or the
platform refuses. -/
def Blocked (j : Nat) : Prop :=
  maxReactions < s.ledger.count key + j ∨ ∃ fault, Refuses key h env s emojis j fault

/-- What becomes of a function that deals with its emojis up to place `j`, which is the first that
is blocked, or comes after the last. -/
structure DealsUpTo (j : Nat) (result : Except Fault Value) (after : Session) : Prop where
  first : 1 ≤ j
  last : j ≤ emojis.length + 1
  least : ∀ i, 1 ≤ i → i < j → ¬Blocked key h env s emojis i
  blocked : j ≤ emojis.length → Blocked key h env s emojis j
  calls : doneCalls after.log = doneCalls s.log ++ (emojis.take (j - 1)).filterMap h.request?
  frame : after.frame = h.noted s.frame (emojis.take (j - 1))
  count : after.ledger.count key = s.ledger.count key + min j emojis.length
  outcome : (j = emojis.length + 1 ∧ result = .ok done) ∨
    (j ≤ emojis.length ∧ maxReactions < s.ledger.count key + j ∧
      result = .error (.exhausted .calls)) ∨
    (j ≤ emojis.length ∧ s.ledger.count key + j ≤ maxReactions ∧
      ∃ fault, Refuses key h env s emojis j fault ∧ result = .error fault)

variable {key h env s emojis} {dealt rest : List String}

theorem count_dealtAll (hDealt : ∀ earlier emoji later, dealt = earlier ++ emoji :: later →
      (h.dealtAll key s earlier).ledger.count key < maxReactions) :
    (h.dealtAll key s dealt).ledger.count key = s.ledger.count key + dealt.length := by
  induction dealt generalizing s with
  | nil => rfl
  | cons emoji rest ih =>
    have hRoom : s.ledger.count key < maxReactions := hDealt [] emoji rest rfl
    have hFirst := h.count_dealt key s emoji
    have hRest := ih (s := h.dealt key s emoji) fun earlier next later hSplit =>
      hDealt (emoji :: earlier) next later (congrArg (emoji :: ·) hSplit)
    rw [Handling.dealtAll_cons, hRest, hFirst, List.length_cons]
    unfold maxReactions at hRoom
    unfold Ledger.maxCount
    omega

theorem not_blocked_of_goesOn {earlier later : List String} {emoji : String}
    (hCount : (h.dealtAll key s earlier).ledger.count key = s.ledger.count key + earlier.length)
    (hGoesOn : GoesOn key h env (h.dealtAll key s earlier) emoji) :
    ¬Blocked key h env s (earlier ++ emoji :: later) (earlier.length + 1) := by
  rintro (hFull | ⟨fault, next, c, hNext, hCall, hAnswer⟩)
  · have hRoom := hGoesOn.room
    omega
  · rw [Nat.add_sub_cancel, List.getElem?_append_right (Nat.le_refl _), Nat.sub_self] at hNext
    obtain rfl : emoji = next := Option.some.inj hNext
    rw [Nat.add_sub_cancel, List.take_left] at hAnswer
    exact hGoesOn.granted c fault hCall hAnswer

theorem not_blocked_of_dealt (hDealt : ∀ earlier emoji later, dealt = earlier ++ emoji :: later →
      GoesOn key h env (h.dealtAll key s earlier) emoji) {i : Nat} (hFirst : 1 ≤ i)
    (hLast : i < dealt.length + 1) : ¬Blocked key h env s (dealt ++ rest) i := by
  -- The emoji at place `i` is one that the loop went past.
  obtain ⟨earlier, emoji, later, hSplit, rfl⟩ : ∃ earlier emoji later,
      dealt = earlier ++ emoji :: later ∧ i = earlier.length + 1 := by
    have hIndex : i - 1 < dealt.length := by omega
    refine ⟨dealt.take (i - 1), dealt[i - 1], dealt.drop (i - 1 + 1), ?_, ?_⟩
    · rw [← List.drop_eq_getElem_cons hIndex, List.take_append_drop]
    · rw [List.length_take]
      omega
  have hCount : (h.dealtAll key s earlier).ledger.count key =
      s.ledger.count key + earlier.length :=
    count_dealtAll fun before next after hBefore =>
      (hDealt before next (after ++ emoji :: later) (by rw [hSplit, hBefore]; simp)).room
  rw [hSplit, List.append_assoc]
  exact not_blocked_of_goesOn hCount (hDealt earlier emoji later hSplit)

theorem lt_maxCount_of_least (hRoom : s.ledger.count key < Ledger.maxCount)
    (hLeast : ∀ i, 1 ≤ i → i < dealt.length + 1 → ¬Blocked key h env s emojis i) :
    s.ledger.count key + dealt.length < Ledger.maxCount := by
  rcases Nat.eq_zero_or_pos dealt.length with hNone | hSome
  · omega
  · -- The last emoji before it was within the budget, which ends long before counting does.
    have hLast : ¬maxReactions < s.ledger.count key + dealt.length := fun hLt =>
      hLeast dealt.length hSome (by omega) (.inl hLt)
    unfold maxReactions at hLast
    unfold Ledger.maxCount
    omega

theorem dealsUpTo_of_stopped {later : List String} {emoji : String} {fault : Fault} {last : Session}
    (hRoom : s.ledger.count key < Ledger.maxCount)
    (hCount : (h.dealtAll key s dealt).ledger.count key = s.ledger.count key + dealt.length)
    (hLeast : ∀ i, 1 ≤ i → i < dealt.length + 1 →
      ¬Blocked key h env s (dealt ++ emoji :: later) i)
    (hStopped : Stopped key h env (h.dealtAll key s dealt) emoji fault last) :
    DealsUpTo key h env s (dealt ++ emoji :: later) (dealt.length + 1) (.error fault) last := by
  have hTake : (dealt ++ emoji :: later).take (dealt.length + 1 - 1) = dealt := by
    rw [Nat.add_sub_cancel, List.take_left]
  have hLength : dealt.length + 1 ≤ (dealt ++ emoji :: later).length := by simp
  have hNext := lt_maxCount_of_least hRoom hLeast
  have hCharged : ((h.dealtAll key s dealt).ledger.charge key).count key =
      s.ledger.count key + min (dealt.length + 1) (dealt ++ emoji :: later).length := by
    rw [Ledger.count_charge_self, hCount, Nat.min_eq_left hLength]
    omega
  have hCalls := h.doneCalls_dealtAll key s dealt
  have hFrame := h.frame_dealtAll key s dealt
  cases hStopped with
  | exhausted hFull =>
    have hOver : maxReactions < s.ledger.count key + (dealt.length + 1) := by omega
    refine ⟨by omega, by omega, hLeast, fun _ => .inl hOver, ?_, ?_, hCharged,
      .inr (.inl ⟨hLength, hOver, rfl⟩)⟩
    · rw [hTake, ← hCalls]
      exact doneCalls_of_none rfl _
    · rw [hTake]
      exact hFrame
  | refused hLess hCall hAnswer =>
    have hIndex : (dealt ++ emoji :: later)[dealt.length + 1 - 1]? = some emoji := by simp
    have hRefuses : Refuses key h env s (dealt ++ emoji :: later) (dealt.length + 1) fault := by
      refine ⟨emoji, _, hIndex, hCall, ?_⟩
      rw [hTake]
      exact hAnswer
    refine ⟨by omega, by omega, hLeast, fun _ => .inr ⟨fault, hRefuses⟩, ?_, ?_, hCharged,
      .inr (.inr ⟨hLength, by omega, fault, hRefuses, rfl⟩)⟩
    · rw [hTake, ← hCalls]
      exact (doneCalls_of_none rfl _).trans (doneCalls_of_none rfl _)
    · rw [hTake]
      exact hFrame

theorem dealsUpTo_of_finished
    (hCount : (h.dealtAll key s emojis).ledger.count key = s.ledger.count key + emojis.length)
    (hLeast : ∀ i, 1 ≤ i → i < emojis.length + 1 → ¬Blocked key h env s emojis i) :
    DealsUpTo key h env s emojis (emojis.length + 1) (.ok done) (h.dealtAll key s emojis) where
  first := by omega
  last := Nat.le_refl _
  least := hLeast
  blocked hLe := by omega
  calls := by simp [h.doneCalls_dealtAll key s emojis]
  frame := by simp [h.frame_dealtAll key s emojis]
  count := by
    rw [hCount]
    omega
  outcome := .inl ⟨rfl, rfl⟩

end Places

theorem perform_eachReaction (key : String) (emojis : List String) (act : String → Script Unit)
    (env : Environment) (s : Session) : (eachReaction key emojis act).perform env s =
      match (emojis.forM (reactionStep key act)).perform env s with
      | (.ok _, after) => (.ok done, after)
      | (.error fault, after) => (.error fault, after) := by
  show (emojis.forM (reactionStep key act) >>= fun _ => pure done).perform env s = _
  rw [perform_bind]
  rcases (emojis.forM (reactionStep key act)).perform env s with ⟨_ | _, _⟩ <;> rfl

/-- A loop over emojis deals with those up to the first place that is blocked. -/
theorem eachReaction_dealsUpTo (key : String) (h : Handling) (env : Environment) {s : Session}
    (emojis : List String) (hRoom : s.ledger.count key < Ledger.maxCount) :
    ∃ j, DealsUpTo key h env s emojis j ((eachReaction key emojis h.act).perform env s).1
      ((eachReaction key emojis h.act).perform env s).2 := by
  obtain ⟨dealt, rest, rfl, hDealt, hEnd⟩ := perform_loop key h env s emojis
  have hCount := count_dealtAll fun earlier emoji later hSplit =>
    (hDealt earlier emoji later hSplit).room
  have hLeast : ∀ i, 1 ≤ i → i < dealt.length + 1 → ¬Blocked key h env s (dealt ++ rest) i :=
    fun i hFirst hLast => not_blocked_of_dealt hDealt hFirst hLast
  refine ⟨dealt.length + 1, ?_⟩
  rw [perform_eachReaction]
  rcases hEnd with ⟨rfl, hLoop⟩ | ⟨emoji, later, fault, last, rfl, hStopped, hLoop⟩
  · rw [hLoop]
    rw [List.append_nil] at hLeast ⊢
    exact dealsUpTo_of_finished hCount hLeast
  · rw [hLoop]
    exact dealsUpTo_of_stopped hRoom hCount hLeast hStopped

/-! ### The functions -/

/-- The number of the channel that a value names; nil names the current one. -/
inductive NamesChannel (env : Environment) (s : Session) (query : Value) : Nat → Prop
  | current {channel : Channel} (hNil : query.isNil = true)
      (hChannel : s.frame.channel = some channel) : NamesChannel env s query channel.id
  | found {channel : Channel} (hGiven : query.isNil = false)
      (hFound : env.host.channel query = some channel) : NamesChannel env s query channel.id

def Builtin.leading : Builtin → Nat
  | addMessageReactions => 2
  | deleteMessageReaction => 3
  | _ => 0

/-- How a function deals with its emojis, if the arguments before them are valid, or if the trigger
has a message where that is meant. -/
inductive Builtin.Handles (env : Environment) (s : Session) (arguments : List Value) :
    Builtin → Handling → Prop
  | trigger {channel : Channel} {message : Nat} (hChannel : env.trigger.channel = some channel)
      (hMessage : env.trigger.message = some message) :
      Handles env s arguments .addReactions (.asks (.addReaction channel.id message))
  | response : Handles env s arguments .addResponseReactions .notes
  | message {channel message : Nat} (hGiven : 2 ≤ arguments.length)
      (hChannel : NamesChannel env s (argument arguments 0) channel)
      (hMessage : idOf "addMessageReactions" (argument arguments 1) = .ok message) :
      Handles env s arguments .addMessageReactions (.asks (.addReaction channel message))
  | removal {channel message user : Nat} (hGiven : 3 ≤ arguments.length)
      (hChannel : NamesChannel env s (argument arguments 0) channel)
      (hMessage : idOf "deleteMessageReaction" (argument arguments 1) = .ok message)
      (hUser : idOf "deleteMessageReaction" (argument arguments 2) = .ok user) :
      Handles env s arguments .deleteMessageReaction
        (.asks (.removeReaction channel message user))

section Functions

variable {env : Environment} {s : Session} {arguments : List Value}

theorem perform_channelOf {query : Value} {channel : Nat} (h : NamesChannel env s query channel) :
    (channelOf query).perform env s = (.ok channel, s) := by
  unfold channelOf
  cases h with
  | current hNil hChannel =>
    rw [if_pos hNil, perform_bind, perform_look]
    simp only [hChannel]
    rfl
  | found hGiven hFound =>
    rw [hGiven, if_neg Bool.false_ne_true, perform_bind, perform_ask]
    simp only [hFound]
    rfl

theorem namesChannel_of_perform {query : Value} {channel : Nat}
    (h : (channelOf query).perform env s = (.ok channel, s)) :
    NamesChannel env s query channel := by
  unfold channelOf at h
  split at h
  · rename_i hNil
    obtain ⟨found, s1, hLook, hRest⟩ := perform_bind_eq_ok.mp h
    cases hLook
    obtain ⟨current, s2, hFound, hLast⟩ := perform_bind_eq_ok.mp hRest
    obtain ⟨hChannel, rfl⟩ := perform_orMissing_eq_ok hFound
    cases hLast
    exact .current hNil hChannel
  · rename_i hGiven
    obtain ⟨known, s1, hAsk, hRest⟩ := perform_bind_eq_ok.mp h
    cases hAsk
    obtain ⟨found, s2, hFound, hLast⟩ := perform_bind_eq_ok.mp hRest
    obtain ⟨hChannel, rfl⟩ := perform_orMissing_eq_ok hFound
    cases hLast
    exact .found (Bool.eq_false_iff.mpr hGiven) hChannel

theorem perform_triggerMessage {channel : Channel} {message : Nat}
    (hChannel : env.trigger.channel = some channel)
    (hMessage : env.trigger.message = some message) :
    triggerMessage.perform env s = (.ok (channel.id, message), s) := by
  unfold triggerMessage
  rw [perform_bind, perform_ask]
  simp only [hChannel, hMessage]
  rfl

theorem triggerMessage_of_perform {place : Nat × Nat}
    (h : triggerMessage.perform env s = (.ok place, s)) :
    ∃ channel message, env.trigger.channel = some channel ∧ env.trigger.message = some message ∧
      place = (channel.id, message) := by
  obtain ⟨trigger, s1, hAsk, hRest⟩ := perform_bind_eq_ok.mp h
  cases hAsk
  split at hRest
  · rename_i channel message hChannel hMessage
    cases hRest
    exact ⟨channel, message, hChannel, hMessage, rfl⟩
  · exact nomatch hRest

theorem ok_of_perform_orMistake {α : Type} {r : Except Mistake α} {a : α}
    (h : (orMistake r).perform env s = (.ok a, s)) : r = .ok a := by
  cases r with
  | error mistake => exact nomatch h
  | ok b =>
    cases h
    rfl

theorem length_of_requireArguments {function : String} {least : Nat}
    (h : requireArguments function arguments least = .ok ()) : least ≤ arguments.length := by
  unfold requireArguments at h
  split at h
  · exact nomatch h
  · omega

/-- A script whose first part only looks fails without a change if what comes after it does. -/
theorem fails_bind {α β : Type} {x : Script α} {f : α → Script β} (hx : Confined .none x)
    (hf : ∀ a, x.perform env s = (.ok a, s) →
      ∃ fault, (f a).perform env s = (.error fault, s)) :
    ∃ fault, (x >>= f).perform env s = (.error fault, s) := by
  obtain ⟨hSame, -⟩ := perform_looking hx env s
  rw [perform_bind]
  rcases hPerform : x.perform env s with ⟨fault | a, after⟩
  · rw [hPerform] at hSame
    obtain rfl : after = s := hSame
    exact ⟨fault, rfl⟩
  · rw [hPerform] at hSame
    obtain rfl : after = s := hSame
    exact hf a hPerform

theorem act_addReaction (channel message : Nat) :
    (Handling.asks (.addReaction channel message)).act =
      fun emoji => call (.addReaction channel message emoji) :=
  funext fun _ => bind_pure_unit

theorem act_removeReaction (channel message user : Nat) :
    (Handling.asks (.removeReaction channel message user)).act =
      fun emoji => call (.removeReaction channel message user emoji) :=
  funext fun _ => bind_pure_unit

theorem run_of_handles (engine : Engine) {b : Builtin} {h : Handling} {key : String}
    (hKey : b.reactionKey? = some key) (hHandles : b.Handles env s arguments h) :
    (b.run engine arguments).perform env s =
      (eachReaction key (flattenTexts (arguments.drop b.leading)) h.act).perform env s := by
  cases hHandles with
  | trigger hChannel hMessage =>
    cases hKey
    show (triggerMessage >>= _).perform env s = _
    rw [perform_bind, perform_triggerMessage hChannel hMessage, act_addReaction]
    rfl
  | response =>
    cases hKey
    rfl
  | message hGiven hChannel hMessage =>
    cases hKey
    show (addMessageReactions arguments).perform env s = _
    unfold addMessageReactions
    rw [requireArguments_of_le hGiven, hMessage, act_addReaction]
    show (channelOf (argument arguments 0) >>= _).perform env s = _
    rw [perform_bind, perform_channelOf hChannel]
    rfl
  | removal hGiven hChannel hMessage hUser =>
    cases hKey
    show (deleteMessageReaction arguments).perform env s = _
    unfold deleteMessageReaction
    rw [requireArguments_of_le hGiven, hMessage, hUser, act_removeReaction]
    show (channelOf (argument arguments 0) >>= _).perform env s = _
    rw [perform_bind, perform_channelOf hChannel]
    rfl

theorem fails_of_not_handles (engine : Engine) {b : Builtin} {key : String}
    (hKey : b.reactionKey? = some key) (hNot : ∀ h, ¬b.Handles env s arguments h) :
    ∃ fault, (b.run engine arguments).perform env s = (.error fault, s) := by
  cases b with
  | addReactions =>
    refine fails_bind triggerMessage_confined fun place hPlace => ?_
    obtain ⟨channel, message, hChannel, hMessage, -⟩ := triggerMessage_of_perform hPlace
    exact absurd (.trigger hChannel hMessage) (hNot _)
  | addResponseReactions => exact absurd .response (hNot _)
  | addMessageReactions =>
    refine fails_bind (.orMistake _) fun _ hGiven => fails_bind (channelOf_confined _)
      fun channel hChannel => fails_bind (.orMistake _) fun message hMessage => ?_
    have hLength := length_of_requireArguments (ok_of_perform_orMistake hGiven)
    have hNames := namesChannel_of_perform hChannel
    exact absurd (.message hLength hNames (ok_of_perform_orMistake hMessage)) (hNot _)
  | deleteMessageReaction =>
    refine fails_bind (.orMistake _) fun _ hGiven => fails_bind (channelOf_confined _)
      fun channel hChannel => fails_bind (.orMistake _) fun message hMessage =>
      fails_bind (.orMistake _) fun user hUser => ?_
    have hLength := length_of_requireArguments (ok_of_perform_orMistake hGiven)
    have hNames := namesChannel_of_perform hChannel
    exact absurd (.removal hLength hNames (ok_of_perform_orMistake hMessage)
      (ok_of_perform_orMistake hUser)) (hNot _)
  | _ => exact nomatch hKey

end Functions

/-- A function that deals with reactions deals with its emojis up to the first for which its budget
is used up or which the platform refuses, and leaves the session as it is if its other arguments are
not valid. -/
theorem Builtin.reacts_to_prefix (engine : Engine) {b : Builtin} {key : String}
    (hKey : b.reactionKey? = some key) (arguments : List Value) (env : Environment) {s : Session}
    (hRoom : s.ledger.count key < Ledger.maxCount) :
    let emojis := flattenTexts (arguments.drop b.leading)
    let (result, after) := (b.run engine arguments).perform env s
    (∀ h, b.Handles env s arguments h → ∃ j, DealsUpTo key h env s emojis j result after) ∧
      ((∀ h, ¬b.Handles env s arguments h) → (∃ fault, result = .error fault) ∧ after = s) := by
  intro emojis
  rcases hRun : (b.run engine arguments).perform env s with ⟨result, after⟩
  constructor
  · intro h hHandles
    have hDeals := eachReaction_dealsUpTo key h env emojis hRoom
    rw [← run_of_handles engine hKey hHandles, hRun] at hDeals
    exact hDeals
  · intro hNot
    obtain ⟨fault, hFails⟩ := fails_of_not_handles engine hKey hNot
    rw [hFails] at hRun
    obtain ⟨rfl, rfl⟩ := Prod.mk.inj hRun
    exact ⟨⟨fault, rfl⟩, rfl⟩

/-- The session of an execution that has added so many reactions to the triggering message. -/
def reacted (n : Nat) : Session :=
  { sampleEnvironment.start with
    ledger := { sampleEnvironment.start.ledger with counts := [("add_reaction_trigger", n)] } }

/-- The budget ends after the second of three emojis, which are an argument and a list. -/
theorem Builtin.reacts_to_two_of_three :
    let arguments : List Value := [.text "a", .list [.text "b", .text "c"]]
    let (result, after) := (addReactions.run (fun _ => pure "") arguments).perform
      sampleEnvironment (reacted 18)
    addReactions.reactionKey? = some "add_reaction_trigger" ∧
      (reacted 18).ledger.count "add_reaction_trigger" < Ledger.maxCount ∧
      DealsUpTo "add_reaction_trigger" (.asks (.addReaction 10 5)) sampleEnvironment (reacted 18)
        ["a", "b", "c"] 3 result after ∧
      result = .error (.exhausted .calls) ∧
      doneCalls after.log = [.addReaction 10 5 "a", .addReaction 10 5 "b"] := by
  intro arguments
  have hKey : addReactions.reactionKey? = some "add_reaction_trigger" := rfl
  have hRoom : (reacted 18).ledger.count "add_reaction_trigger" < Ledger.maxCount := by decide
  have hChannel : sampleEnvironment.trigger.channel = some ⟨10, "general", false⟩ := rfl
  have hHandles : addReactions.Handles sampleEnvironment (reacted 18) arguments
      (.asks (.addReaction 10 5)) := .trigger hChannel rfl
  obtain ⟨hValid, -⟩ := Builtin.reacts_to_prefix (fun _ => pure "") hKey arguments
    sampleEnvironment hRoom
  obtain ⟨j, hDeals⟩ := hValid _ hHandles
  -- The count went up by three, so that the third emoji was counted and refused.
  have hCount : 21 = 18 + min j 3 := hDeals.count
  have hLast : j ≤ 3 := by
    rcases hDeals.outcome with ⟨-, hDone⟩ | ⟨hLe, -⟩ | ⟨hLe, -⟩
    · exact nomatch hDone
    · exact hLe
    · exact hLe
  obtain rfl : j = 3 := by omega
  exact ⟨hKey, hRoom, hDeals, rfl, rfl⟩

end BotScript
