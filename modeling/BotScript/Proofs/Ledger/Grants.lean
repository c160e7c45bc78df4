import BotScript.Proofs.Ledger.Counts
import BotScript.Proofs.Powers

/-! How often a demand is granted.  `Booked` says that the answers in a log are those of the ledger,
and `Booked.granted_le` that a demand which is counted is then granted no more often than its
ceiling allows, whatever else is demanded in between.  What scripts leave is booked:
`Confined.books`. -/

namespace BotScript

/-- How often a demand was granted in a log. -/
def granted (d : Demand) (log : List Event) : Nat := log.count (.demanded d true)

theorem granted_append (d : Demand) (later earlier : List Event) :
    granted d (later ++ earlier) = granted d later + granted d earlier := List.count_append

namespace Ledger

variable {l : Ledger} {later earlier log : List Event} {d : Demand} {key : String}

/-- Each demand in a log, the latest first, was answered as the ledger judges it that the earlier
ones lead to. -/
def Booked (l : Ledger) : List Event → Prop
  | [] => True
  | e :: earlier =>
    (∀ d answer, e = .demanded d answer → answer = ((l.after earlier).judge d).1.isGranted) ∧
      l.Booked earlier

theorem Booked.append (hEarlier : l.Booked earlier) (hLater : (l.after earlier).Booked later) :
    l.Booked (later ++ earlier) := by
  induction later with
  | nil => exact hEarlier
  | cons e rest ih =>
    have hAfter : l.after (rest ++ earlier) = (l.after earlier).after rest :=
      after_append l rest earlier
    refine ⟨fun d answer he => ?_, ih hLater.2⟩
    rw [List.append_eq, hAfter]
    exact hLater.1 d answer he

theorem booked_of_no_demand (h : ∀ e ∈ log, ∀ d answer, e ≠ .demanded d answer) :
    l.Booked log := by
  induction log with
  | nil => trivial
  | cons e rest ih =>
    exact ⟨fun d answer he => absurd he (h e List.mem_cons_self d answer),
      ih fun e he => h e (List.mem_cons_of_mem _ he)⟩

theorem after_settings (l : Ledger) (log : List Event) :
    (l.after log).apiCeiling = l.apiCeiling ∧ (l.after log).premium = l.premium := by
  induction log with
  | nil => exact ⟨rfl, rfl⟩
  | cons e rest ih =>
    cases e with
    | demanded d answer =>
      obtain ⟨hCeiling, hPremium⟩ := judge_settings (l.after rest) d
      exact ⟨hCeiling.trans ih.1, hPremium.trans ih.2⟩
    | slept _ | called _ _ | began _ | ended _ => exact ih

/-- Each grant counts one, and none is given that takes the count above the ceiling. -/
theorem Booked.granted_le (h : l.Booked log) (hKey : d.key? = some key)
    (hMax : d.ceiling l.apiCeiling l.premium < maxCount) :
    granted d log ≤ (l.after log).count key ∧
      granted d log ≤ d.ceiling l.apiCeiling l.premium := by
  -- A count that is short of where counting stops has grown with each grant, so that it carries the
  -- number of grants from one demand to the next.
  induction log with
  | nil => exact ⟨Nat.zero_le _, Nat.zero_le _⟩
  | cons e rest ih =>
    obtain ⟨hCount, hCeiling⟩ := ih h.2
    cases e with
    | demanded other answer =>
      have hAfter : (l.after (.demanded other answer :: rest)).count key =
          if other.key? = some key then min maxCount ((l.after rest).count key + 1)
          else (l.after rest).count key := count_judge (l.after rest) other key
      by_cases hGrant : Event.demanded other answer = .demanded d true
      · cases hGrant
        obtain ⟨hApi, hPremium⟩ := after_settings l rest
        have hJudged : true = ((l.after rest).judge d).1.isGranted := h.1 d true rfl
        rw [judge_eq_check _ d hKey, isGranted_check, hApi, hPremium] at hJudged
        have hBelow : min maxCount ((l.after rest).count key + 1) ≤
            d.ceiling l.apiCeiling l.premium := of_decide_eq_true hJudged.symm
        rw [hAfter, if_pos hKey, granted, List.count_cons_self, ← granted]
        omega
      · rw [granted, List.count_cons_of_ne hGrant, ← granted]
        refine ⟨?_, hCeiling⟩
        rw [hAfter]
        split <;> omega
    | slept _ | called _ _ | began _ | ended _ =>
      rw [granted, List.count_cons_of_ne (by simp), ← granted]
      exact ⟨hCount, hCeiling⟩

end Ledger

/-- A session after one in which the events `new`, the latest first, were booked. -/
structure Books (s after : Session) (new : List Event) : Prop where
  log : after.log = new ++ s.log
  ledger : after.ledger = s.ledger.after new
  booked : s.ledger.Booked new

namespace Books

variable {s s1 s2 s3 after : Session} {new new1 new2 : List Event}

theorem refl (s : Session) : Books s s [] := ⟨rfl, rfl, trivial⟩

theorem trans (h1 : Books s1 s2 new1) (h2 : Books s2 s3 new2) : Books s1 s3 (new2 ++ new1) := by
  refine ⟨?_, ?_, h1.booked.append ?_⟩
  · rw [h2.log, h1.log, List.append_assoc]
  · rw [h2.ledger, h1.ledger, Ledger.after_append]
  · rw [← h1.ledger]
    exact h2.booked

/-- Frames, data and patterns are not booked. -/
theorem of_same (hLog : after.log = s.log) (hLedger : after.ledger = s.ledger) :
    Books s after [] := ⟨hLog, hLedger, trivial⟩

theorem of_no_demand (hNew : ∀ e ∈ new, ∀ d answer, e ≠ .demanded d answer)
    (hLog : after.log = new ++ s.log) (hLedger : after.ledger = s.ledger) : Books s after new :=
  ⟨hLog, hLedger.trans (Ledger.after_of_no_demand hNew s.ledger).symm,
    Ledger.booked_of_no_demand hNew⟩

end Books

namespace Script

variable {α β : Type} (env : Environment) (s : Session)

theorem demand_books (d : Demand) : ∃ new, Books s ((demand d).perform env s).2 new := by
  refine ⟨[.demanded d (s.ledger.ensure d).1.toBool], rfl, ?_, fun other answer he => ?_, trivial⟩
  · rw [perform_demand, Ledger.after_demanded, Ledger.ensure_eq]
  · cases he
    show _ = (s.ledger.judge d).1.isGranted
    rw [Ledger.ensure_eq, Verdict.toBool_toExcept]

theorem bind_books {x : Script α} {f : α → Script β} (hx : ∃ new, Books s (x.perform env s).2 new)
    (hf : ∀ a after, ∃ new, Books after ((f a).perform env after).2 new) :
    ∃ new, Books s ((x >>= f).perform env s).2 new := by
  refine perform_bind_trans (R := fun s after => ∃ new, Books s after new) ?_ hx hf
  rintro s1 s2 s3 ⟨new1, h1⟩ ⟨new2, h2⟩
  exact ⟨new2 ++ new1, h1.trans h2⟩

/-- What a script leaves that is put together from steps is booked, whatever its powers are. -/
theorem Confined.books {p : Powers} {x : Script α} (h : Confined p x) :
    ∃ new, Books s (x.perform env s).2 new := by
  induction h generalizing s with
  | ofExcept _ | ask _ | look _ | now | draw _ => exact ⟨[], .refl s⟩
  | bind _ _ ihx ihf => exact bind_books env s (ihx s) ihf
  | demand _ => exact demand_books env s _
  | @sleep seconds _ =>
    exact bind_books env s (demand_books env s _) fun _ after =>
      ⟨[.slept seconds.toInt.toNat], .of_no_demand (by simp) rfl rfl⟩
  | @call c _ =>
    exact ⟨[.called c (env.host.answer s.log c).toBool], .of_no_demand (by simp) rfl rfl⟩
  | @compile source _ =>
    refine ⟨[], ?_⟩
    rw [perform_compile]
    rcases s.patterns.request source with fault | ⟨pattern, patterns⟩
    · exact .refl s
    · exact .of_same rfl rfl
  | editFrame _ => exact ⟨[], .of_same rfl rfl⟩

end Script

end BotScript
