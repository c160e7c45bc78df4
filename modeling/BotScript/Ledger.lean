import BotScript.Entries
import BotScript.Fault
import BotScript.Settings

/-! The budgets of one execution: calls counted by key, and seconds slept.  What is demanded is
counted before it is judged, so that refused calls count too; a refused sleep does not.  The limit
of sleep is compared with a sum that stops at the greatest word, and the total is kept by one that
does not, which overflows once a limit as great as that is used up. -/

namespace BotScript

/-- What an execution has used of its budgets. -/
structure Ledger where
  premium : Bool
  apiCeiling : Nat
  sleepLimit : Nat
  counts : List (String × Nat)
  slept : Nat
  deriving DecidableEq

/-- What a script asks of its budgets. -/
inductive Demand
  | calls (key : String) (ceiling : Nat)
  | tieredCalls (key : String) (free premium : Nat)
  | apiCall
  | sleep (seconds : Int64)
  deriving DecidableEq

/-- What comes of a demand.  An overflow is no answer to it: there the run ends. -/
inductive Verdict
  | granted
  | refused
  | overflow
  deriving DecidableEq

namespace Verdict

def isGranted : Verdict → Bool
  | granted => true
  | _ => false

theorem isGranted_iff {v : Verdict} : v.isGranted = true ↔ v = granted := by cases v <;> decide

/-- What comes of a demand that has to be granted, with the budget that is used up otherwise. -/
def toExcept (budget : Budget) : Verdict → Except Fault Unit
  | granted => .ok ()
  | refused => .error (.exhausted budget)
  | overflow => .error .overflow

@[simp] theorem toBool_toExcept (budget : Budget) (v : Verdict) :
    (v.toExcept budget).toBool = v.isGranted := by
  cases v <;> rfl

end Verdict

namespace Ledger

/-- The key under which the calls of the shared budget are counted. -/
def apiKey : String := "api_call"

/-- The count at which counting stops. -/
def maxCount : Nat := 0xFFFFFFFF

/-- The most seconds that the total of the seconds slept can hold. -/
def maxSeconds : Nat := 0xFFFFFFFFFFFFFFFF

/-- The ledger with which an execution starts. -/
def start (limits : Limits) (premium : Bool) : Ledger :=
  ⟨premium, limits.apiCalls, limits.sleepSeconds, [], 0⟩

/-- How many calls have been counted under a key. -/
def count (l : Ledger) (key : String) : Nat := (Entries.get? key l.counts).getD 0

/-- Counts one call under a key. -/
def charge (l : Ledger) (key : String) : Ledger :=
  { l with counts := Entries.insert key (min maxCount (l.count key + 1)) l.counts }

/-- Counts one call under a key, and refuses it if there are more than `ceiling` now. -/
def check (l : Ledger) (key : String) (ceiling : Nat) : Verdict × Ledger :=
  let l := l.charge key
  (if ceiling < l.count key then .refused else .granted, l)

/-- Adds seconds to those slept.  Less than one second is refused, and more than the limit
leaves. -/
def checkSleep (l : Ledger) (seconds : Int64) : Verdict × Ledger :=
  if seconds < 1 then (.refused, l)
  else
    let total := l.slept + seconds.toInt.toNat
    if l.sleepLimit < min maxSeconds total then (.refused, l)
    else if maxSeconds < total then (.overflow, l)
    else (.granted, { l with slept := total })

/-- What comes of a demand, and the ledger after it. -/
def judge (l : Ledger) : Demand → Verdict × Ledger
  | .calls key ceiling => l.check key ceiling
  | .tieredCalls key free premium => l.check key (if l.premium then premium else free)
  | .apiCall => l.check apiKey l.apiCeiling
  | .sleep seconds => l.checkSleep seconds

/-- The budget that is used up when a demand is refused. -/
def refusal (l : Ledger) : Demand → Budget
  | .calls .. => .calls
  | .tieredCalls .. => .calls
  | .apiCall => .apiCalls
  | .sleep _ => .sleep l.sleepLimit

/-- A demand that has to be granted. -/
def ensure (l : Ledger) (d : Demand) : Except Fault Unit × Ledger :=
  let (verdict, after) := l.judge d
  (verdict.toExcept (l.refusal d), after)

/-! ### What a demand leaves -/

variable (l : Ledger) (key : String)

@[simp] theorem count_start (limits : Limits) (premium : Bool) :
    (start limits premium).count key = 0 := rfl

@[simp] theorem count_charge_self : (l.charge key).count key = min maxCount (l.count key + 1) := by
  simp [charge, count]

theorem count_charge_of_ne {other : String} (h : other ≠ key) :
    (l.charge key).count other = l.count other := by
  simp [charge, count, Entries.get?_insert_of_ne h]

/-- A call is counted whether or not it is refused, and it is refused if its count is above the
ceiling. -/
theorem check_eq (ceiling : Nat) :
    l.check key ceiling =
      (if ceiling < min maxCount (l.count key + 1) then .refused else .granted, l.charge key) := by
  simp [check]

theorem isGranted_check (ceiling : Nat) :
    (l.check key ceiling).1.isGranted = decide (min maxCount (l.count key + 1) ≤ ceiling) := by
  rw [check_eq]
  split
  · rename_i hAbove
    exact (decide_eq_false (Nat.not_le.mpr hAbove)).symm
  · rename_i hBelow
    exact (decide_eq_true (Nat.not_lt.mp hBelow)).symm

/-- Sleep is not a call. -/
theorem counts_checkSleep (seconds : Int64) : (l.checkSleep seconds).2.counts = l.counts := by
  simp only [checkSleep]
  split
  · rfl
  · split
    · rfl
    · split <;> rfl

/-- A demand that has to be granted is judged as it is otherwise. -/
theorem ensure_eq (d : Demand) :
    l.ensure d = ((l.judge d).1.toExcept (l.refusal d), (l.judge d).2) := rfl

/-- A demand for calls fails if and only if their count goes above the ceiling. -/
theorem ensure_calls (ceiling : Nat) :
    l.ensure (.calls key ceiling) =
      (if ceiling < (l.charge key).count key then .error (.exhausted .calls) else .ok (),
        l.charge key) := by
  rw [ensure_eq]
  simp only [judge, check, refusal]
  split <;> rfl

end Ledger

end BotScript
