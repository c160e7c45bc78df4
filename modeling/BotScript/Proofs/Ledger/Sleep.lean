import BotScript.Execution
import BotScript.Proofs.Ledger.Counts
import Mathlib.Algebra.Order.BigOperators.Group.List
import Mathlib.Algebra.Ring.Int.Defs

/-! Sleep over histories of requests.  A sleep is granted if and only if it lasts a second or more
and, with the seconds granted before, no longer than the limit.  The guard adds up to the greatest
word and no further, so that under the greatest limit it lets a sum through for which the total has
no room.  `Ledger.sleepsExactly_iff` says for which limits and histories no sum overflows, and that
time is slept away where a sleep is granted and nowhere else. -/

namespace BotScript

/-- The seconds of the sleep that is demanded, and none if something else is. -/
def Demand.seconds : Demand → Int
  | .sleep seconds => seconds.toInt
  | _ => 0

/-- The seconds of all sleeps that a history asks for, those of less than a second left out. -/
def wantedSeconds (history : List Request) : Int :=
  (history.map fun r => max 0 r.demand.seconds).sum

/-- The seconds of all sleeps that were granted. -/
def grantedSeconds (answered : List (Request × Verdict)) : Int :=
  (answered.map fun a => if a.2 = .granted then a.1.demand.seconds else 0).sum

theorem wantedSeconds_append (earlier later : List Request) :
    wantedSeconds (earlier ++ later) = wantedSeconds earlier + wantedSeconds later := by
  simp [wantedSeconds]

theorem wantedSeconds_le_of_prefix {moment history : List Request} (h : moment <+: history) :
    wantedSeconds moment ≤ wantedSeconds history := by
  obtain ⟨later, rfl⟩ := h
  have hLater : 0 ≤ wantedSeconds later := List.sum_nonneg (by simp)
  rw [wantedSeconds_append]
  omega

namespace Ledger

/-! ### One sleep -/

section OneSleep

variable (l : Ledger) (d : Demand) (seconds : Int64)

/-- The guard in one equation: a sleep of a second or more passes it if its total, or the greatest
word if the total is none, is within the limit.  It overflows then if the total is no word. -/
theorem checkSleep_eq :
    l.checkSleep seconds =
      if 1 ≤ seconds.toInt ∧ min maxSeconds (l.slept + seconds.toInt.toNat) ≤ l.sleepLimit then
        if maxSeconds < l.slept + seconds.toInt.toNat then (.overflow, l)
        else (.granted, { l with slept := l.slept + seconds.toInt.toNat })
      else (.refused, l) := by
  have hOne : seconds < 1 ↔ ¬1 ≤ seconds.toInt := by
    rw [Int64.lt_iff_toInt_lt, show (1 : Int64).toInt = 1 from rfl, Int.not_le]
  simp only [checkSleep, hOne]
  by_cases hSecond : 1 ≤ seconds.toInt
  · by_cases hLimit : min maxSeconds (l.slept + seconds.toInt.toNat) ≤ l.sleepLimit
    · simp only [if_neg (not_not.mpr hSecond), if_neg (Nat.not_lt.mpr hLimit),
        if_pos (And.intro hSecond hLimit)]
    · rw [if_neg (not_not.mpr hSecond), if_pos (Nat.lt_of_not_le hLimit),
        if_neg fun h => hLimit h.2]
  · rw [if_pos hSecond, if_neg fun h => hSecond h.1]

/-- Only a sleep that is granted changes the ledger, and it adds to the total. -/
theorem checkSleep_snd : (l.checkSleep seconds).2 =
    if (l.checkSleep seconds).1 = .granted then
      { l with slept := l.slept + seconds.toInt.toNat }
    else l := by
  rw [checkSleep_eq]
  split
  · split <;> rfl
  · rfl

theorem judge_sleepLimit : (l.judge d).2.sleepLimit = l.sleepLimit := by
  cases d with
  | calls _ _ | tieredCalls _ _ _ | apiCall => rfl
  | sleep seconds =>
    rw [judge, checkSleep_snd]
    split <;> rfl

variable {l d seconds}

/-- A sleep is judged by its seconds: it is granted if it lasts a second or more and stays within
the limit with those slept before. -/
theorem judge_sleep_granted_iff (hLimit : l.sleepLimit ≤ maxSeconds) :
    (l.judge (.sleep seconds)).1 = .granted ↔
      1 ≤ seconds.toInt ∧ l.slept + seconds.toInt ≤ l.sleepLimit := by
  rw [judge, checkSleep_eq]
  split
  · split
    · exact iff_of_false (by simp) (by omega)
    · exact iff_of_true rfl (by omega)
  · exact iff_of_false (by simp) (by omega)

/-- A sum overflows if it is no word and nothing but the greatest word is the limit. -/
theorem judge_sleep_overflow_iff (hLimit : l.sleepLimit ≤ maxSeconds) :
    (l.judge (.sleep seconds)).1 = .overflow ↔ 1 ≤ seconds.toInt ∧
      l.sleepLimit = maxSeconds ∧ maxSeconds < l.slept + seconds.toInt := by
  rw [judge, checkSleep_eq]
  split
  · split
    · exact iff_of_true rfl (by omega)
    · exact iff_of_false (by simp) (by omega)
  · exact iff_of_false (by simp) (by omega)

theorem one_le_of_granted (h : (l.checkSleep seconds).1 = .granted) : 1 ≤ seconds.toInt := by
  rw [checkSleep_eq] at h
  split at h
  · rename_i hGuard
    exact hGuard.1
  · exact nomatch h

/-- What is granted is added to the total. -/
theorem judge_slept :
    ((l.judge d).2.slept : Int) =
      l.slept + (if (l.judge d).1 = .granted then d.seconds else 0) := by
  cases d with
  | calls _ _ | tieredCalls _ _ _ | apiCall =>
    simp only [Demand.seconds, ite_self]
    exact (Int.add_zero _).symm
  | sleep seconds =>
    rw [judge, checkSleep_snd, Demand.seconds]
    split
    · rename_i hGranted
      have hSecond := one_le_of_granted hGranted
      simp only [Nat.cast_add]
      omega
    · exact (Int.add_zero _).symm

/-- The total stays within the limit. -/
theorem judge_within (hLimit : l.sleepLimit ≤ maxSeconds) (hSlept : l.slept ≤ l.sleepLimit) :
    (l.judge d).2.slept ≤ l.sleepLimit := by
  have hTotal := @judge_slept l d
  cases d with
  | calls _ _ | tieredCalls _ _ _ | apiCall => exact hSlept
  | sleep seconds =>
    split at hTotal
    · rename_i hGranted
      have hWithin := (judge_sleep_granted_iff hLimit).mp hGranted
      rw [Demand.seconds] at hTotal
      omega
    · omega

end OneSleep

/-! ### Histories -/

/-- In a history that starts with nothing slept, each sleep is dealt with by its seconds: at every
moment the total is what was granted so far and is within the limit, and a sleep is granted if and
only if it lasts a second or more and stays within the limit with what was granted before. -/
structure SleepsByLimit (fresh : Ledger) (history : List Request) : Prop where
  total : ∀ moment, moment <+: history →
    ((fresh.serveAll moment).slept : Int) = grantedSeconds (fresh.transcript moment)
  within : ∀ moment, moment <+: history →
    grantedSeconds (fresh.transcript moment) ≤ fresh.sleepLimit
  answer : ∀ moment r seconds, moment ++ [r] <+: history → r.demand = .sleep seconds →
    (((fresh.serveAll moment).serve r).1 = .granted ↔ 1 ≤ seconds.toInt ∧
      grantedSeconds (fresh.transcript moment) + seconds.toInt ≤ fresh.sleepLimit)

/-- The sleeps of a history are dealt with by their seconds, and those that are not granted are
refused: no sum overflows. -/
structure SleepsExactly (fresh : Ledger) (history : List Request) : Prop
    extends SleepsByLimit fresh history where
  fits : ∀ answered ∈ fresh.transcript history, answered.2 ≠ .overflow

section Histories

variable {l fresh : Ledger} {history : List Request}

theorem grantedSeconds_cons (r : Request) (rest : List Request) :
    grantedSeconds (l.transcript (r :: rest)) =
      (if (l.judge r.demand).1 = .granted then r.demand.seconds else 0) +
        grantedSeconds ((l.judge r.demand).2.transcript rest) := by
  simp [grantedSeconds, transcript, serve_eq_judge]

theorem serveAll_sleepLimit : (l.serveAll history).sleepLimit = l.sleepLimit := by
  induction history generalizing l with
  | nil => rfl
  | cons r rest ih => rw [serveAll_cons, ih, judge_sleepLimit]

/-- What is slept is what was granted. -/
theorem slept_serveAll : ((l.serveAll history).slept : Int) =
    l.slept + grantedSeconds (l.transcript history) := by
  induction history generalizing l with
  | nil => exact (Int.add_zero _).symm
  | cons r rest ih => rw [serveAll_cons, grantedSeconds_cons, ih, judge_slept, Int.add_assoc]

theorem within_serveAll (hLimit : l.sleepLimit ≤ maxSeconds) (hSlept : l.slept ≤ l.sleepLimit) :
    (l.serveAll history).slept ≤ l.sleepLimit := by
  induction history generalizing l with
  | nil => exact hSlept
  | cons r rest ih =>
    have hKept := judge_sleepLimit l r.demand
    have hWithin := judge_within (d := r.demand) hLimit hSlept
    rw [serveAll_cons, ← hKept]
    exact ih (hKept ▸ hLimit) (hKept ▸ hWithin)

theorem wantedSeconds_cons (r : Request) (rest : List Request) :
    wantedSeconds (r :: rest) = max 0 r.demand.seconds + wantedSeconds rest := rfl

/-- Each sleep is dealt with by its seconds, whatever the limit is. -/
theorem sleepsByLimit (hFresh : fresh.slept = 0) (hLimit : fresh.sleepLimit ≤ maxSeconds) :
    SleepsByLimit fresh history := by
  have hTotal : ∀ moment, ((fresh.serveAll moment).slept : Int) =
      grantedSeconds (fresh.transcript moment) := by
    intro moment
    rw [slept_serveAll, hFresh]
    exact Int.zero_add _
  refine ⟨fun moment _ => hTotal moment, fun moment _ => ?_, fun moment r seconds _ hDemand => ?_⟩
  · have hWithin := @within_serveAll fresh moment hLimit (by omega)
    rw [← hTotal]
    omega
  · have hKept : (fresh.serveAll moment).sleepLimit = fresh.sleepLimit := serveAll_sleepLimit
    rw [serve_eq_judge, hDemand, judge_sleep_granted_iff (hKept ▸ hLimit), hTotal, hKept]

/-- A sum that overflows goes past the greatest word, which is then the limit. -/
theorem wantedSeconds_of_overflow (hLimit : l.sleepLimit ≤ maxSeconds)
    (h : ∃ answered ∈ l.transcript history, answered.2 = .overflow) :
    l.sleepLimit = maxSeconds ∧ maxSeconds < l.slept + wantedSeconds history := by
  induction history generalizing l with
  | nil => exact absurd h (by simp [transcript])
  | cons r rest ih =>
    have hNone : 0 ≤ wantedSeconds rest := wantedSeconds_le_of_prefix List.nil_prefix
    have hKept := judge_sleepLimit l r.demand
    obtain ⟨answered, hAnswered, hOverflow⟩ := h
    rw [wantedSeconds_cons]
    rcases List.mem_cons.mp hAnswered with rfl | hLater
    · rw [serve_eq_judge] at hOverflow
      cases hDemand : r.demand with
      | calls _ _ | tieredCalls _ _ _ | apiCall =>
        rw [hDemand] at hOverflow
        exact absurd hOverflow (judge_ne_overflow l _ rfl)
      | sleep seconds =>
        rw [hDemand, judge_sleep_overflow_iff hLimit] at hOverflow
        obtain ⟨hSecond, hGreatest, hPast⟩ := hOverflow
        rw [Demand.seconds]
        exact ⟨hGreatest, by omega⟩
    · rw [serve_eq_judge] at hLater
      obtain ⟨hGreatest, hPast⟩ := ih (hKept ▸ hLimit) ⟨answered, hLater, hOverflow⟩
      have hTotal := @judge_slept l r.demand
      refine ⟨hKept ▸ hGreatest, ?_⟩
      split at hTotal <;> omega

/-- Under the greatest limit every sleep of a second or more is granted until a sum overflows. -/
theorem grantedSeconds_of_greatest_limit (h : l.sleepLimit = maxSeconds)
    (hFits : ∀ answered ∈ l.transcript history, answered.2 ≠ .overflow) :
    grantedSeconds (l.transcript history) = wantedSeconds history := by
  induction history generalizing l with
  | nil => rfl
  | cons r rest ih =>
    obtain ⟨hFirst, hRest⟩ := List.forall_mem_cons.mp hFits
    rw [serve_eq_judge] at hFirst hRest
    have hSame : (if (l.judge r.demand).1 = .granted then r.demand.seconds else 0) =
        max 0 r.demand.seconds := by
      cases hDemand : r.demand with
      | calls _ _ | tieredCalls _ _ _ | apiCall => simp [Demand.seconds]
      | sleep seconds =>
        rw [hDemand] at hFirst
        have hRoom := mt (judge_sleep_overflow_iff (by omega)).mpr hFirst
        have hGranted := @judge_sleep_granted_iff l seconds (by omega)
        rw [Demand.seconds]
        by_cases hSecond : 1 ≤ seconds.toInt
        · rw [if_pos (hGranted.mpr ⟨hSecond, by omega⟩), max_eq_right (by omega)]
        · rw [if_neg fun h => hSecond (hGranted.mp h).1, max_eq_left (by omega)]
    rw [grantedSeconds_cons, hSame, ih ((judge_sleepLimit l r.demand).trans h) hRest,
      wantedSeconds_cons]

/-- No sum overflows if and only if the limit is below the greatest word or all that is wanted is a
word. -/
theorem fits_iff (hFresh : fresh.slept = 0) (hLimit : fresh.sleepLimit ≤ maxSeconds) :
    (∀ answered ∈ fresh.transcript history, answered.2 ≠ .overflow) ↔
      fresh.sleepLimit < maxSeconds ∨ wantedSeconds history ≤ maxSeconds := by
  constructor
  · intro hFits
    rcases Nat.lt_or_eq_of_le hLimit with hBelow | hGreatest
    · exact .inl hBelow
    · have hWithin := (sleepsByLimit hFresh hLimit).within history List.prefix_rfl
      rw [grantedSeconds_of_greatest_limit hGreatest hFits] at hWithin
      exact .inr (hGreatest ▸ hWithin)
  · intro hRoom answered hAnswered hOverflow
    obtain ⟨hGreatest, hPast⟩ := wantedSeconds_of_overflow hLimit ⟨answered, hAnswered, hOverflow⟩
    omega

end Histories

/-- Time is slept away once if the demand for it is granted, and not at all if it is refused or if
the run ends with it. -/
theorem perform_sleep (seconds : Int64) (env : Environment) (s : Session) :
    (Script.sleep seconds).perform env s = match (s.ledger.judge (.sleep seconds)).1 with
      | .granted => (.ok (), { s with
          ledger := (s.ledger.judge (.sleep seconds)).2
          log := .slept seconds.toInt.toNat :: .demanded (.sleep seconds) true :: s.log })
      | .refused => (.error (.exhausted (.sleep s.ledger.sleepLimit)),
          { s with log := .demanded (.sleep seconds) false :: s.log })
      | .overflow => (.error .overflow,
          { s with log := .demanded (.sleep seconds) false :: s.log }) := by
  have hAfter : (s.ledger.judge (.sleep seconds)).2 = _ := checkSleep_snd s.ledger seconds
  rw [Script.sleep, Script.perform_bind, Script.perform_demand, ensure_eq]
  rcases hJudged : (s.ledger.judge (.sleep seconds)).1 with _ | _ | _
  · rfl
  · rw [judge] at hJudged
    rw [hAfter, hJudged]
    rfl
  · rw [judge] at hJudged
    rw [hAfter, hJudged]
    rfl

/-- In every history that starts afresh each sleep is dealt with by its exact seconds, but for sums
that overflow.  There are none if and only if the limit is below the greatest word or all that the
history wants is a word.  Wherever a sleep is demanded, time is slept away once and for just as long
if it is granted, and if it is refused or the run ends nothing but that remains of it. -/
theorem sleepsExactly_iff (limits : Limits) (premium : Bool)
    (hLimit : limits.sleepSeconds ≤ maxSeconds) (history : List Request) :
    SleepsByLimit (start limits premium) history ∧
    (SleepsExactly (start limits premium) history ↔
      limits.sleepSeconds < maxSeconds ∨ wantedSeconds history ≤ maxSeconds) ∧
    ∀ (seconds : Int64) (env : Environment) (s : Session),
      let done := (Script.sleep seconds).perform env s
      match s.ledger.judge (.sleep seconds) with
      | (.granted, after) => 1 ≤ seconds.toInt ∧ done = (.ok (), { s with
          ledger := after
          log := .slept seconds.toInt.toNat :: .demanded (.sleep seconds) true :: s.log })
      | (.refused, after) => after = s.ledger ∧
          done = (.error (.exhausted (.sleep s.ledger.sleepLimit)),
            { s with log := .demanded (.sleep seconds) false :: s.log })
      | (.overflow, after) => after = s.ledger ∧
          done = (.error .overflow,
            { s with log := .demanded (.sleep seconds) false :: s.log }) := by
  have hByLimit : SleepsByLimit (start limits premium) history := sleepsByLimit rfl hLimit
  have hFits := @fits_iff (start limits premium) history rfl hLimit
  refine ⟨hByLimit, ⟨fun h => hFits.mp h.fits, fun h => ⟨hByLimit, hFits.mpr h⟩⟩,
    fun seconds env s => ?_⟩
  have hSleep := perform_sleep seconds env s
  have hAfter : (s.ledger.judge (.sleep seconds)).2 = _ := checkSleep_snd s.ledger seconds
  rcases hJudged : s.ledger.judge (.sleep seconds) with ⟨verdict, after⟩
  have hVerdict : (s.ledger.checkSleep seconds).1 = verdict := congrArg Prod.fst hJudged
  rw [hJudged] at hSleep hAfter
  rw [hVerdict] at hAfter
  cases verdict with
  | granted => exact ⟨one_le_of_granted hVerdict, hSleep⟩
  | refused => exact ⟨hAfter, hSleep⟩
  | overflow => exact ⟨hAfter, hSleep⟩

/-- Of three sleeps of 25 seconds the third goes above the usual limit of a minute. -/
theorem sleepsExactly_third_of_three :
    let sleeping : Request := .ensure (.sleep 25)
    let fresh := start .default false
    SleepsExactly fresh [sleeping, sleeping, sleeping] ∧
      ((fresh.serveAll [sleeping, sleeping]).serve sleeping).1 = .refused ∧
      (fresh.serveAll [sleeping, sleeping, sleeping]).slept = 50 := by
  intro sleeping fresh
  have hExact : SleepsExactly fresh [sleeping, sleeping, sleeping] :=
    (sleepsExactly_iff .default false (by decide) _).2.1.mpr (.inl (by decide))
  have hTotal := hExact.total [sleeping, sleeping, sleeping] List.prefix_rfl
  have hGranted : grantedSeconds (fresh.transcript [sleeping, sleeping, sleeping]) = 50 := by decide
  exact ⟨hExact, by decide, by omega⟩

/-- Under the greatest limit all of it can be slept, and the sum of one more second overflows, which
the limit is to refuse. -/
theorem overflows_past_greatest_limit :
    let fresh := start { Limits.default with sleepSeconds := maxSeconds } false
    let most : Request := .judge (.sleep Int64.maxValue)
    let second : Request := .judge (.sleep 1)
    let full := fresh.serveAll [most, most, second]
    ¬SleepsExactly fresh [most, most, second, second] ∧ full.slept = maxSeconds ∧
      full.serve second = (.overflow, full) ∧ (full.ensure (.sleep 1)).1 = .error .overflow := by
  intro fresh most second full
  refine ⟨fun h => ?_, by decide, by decide, by decide⟩
  exact h.fits (second, .overflow) (by decide) rfl

end Ledger

end BotScript
