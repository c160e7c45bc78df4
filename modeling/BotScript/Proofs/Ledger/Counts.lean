import BotScript.Ledger

/-! Ledgers over histories of requests.  The count of a key is the number of requests that checked
it so far, up to the count at which counting stops, and the answer to a check depends on that number
alone.  `Ledger.history_counts` says so for every history that starts afresh. -/

namespace BotScript

/-- The key that a demand is counted under.  Sleep is not counted. -/
def Demand.key? : Demand → Option String
  | .calls key _ | .tieredCalls key _ _ => some key
  | .apiCall => some Ledger.apiKey
  | .sleep _ => none

/-- How many calls there may be under the key of a demand, in a tier and with a ceiling of the
shared budget. -/
def Demand.ceiling (apiCeiling : Nat) (premium : Bool) : Demand → Nat
  | .calls _ ceiling => ceiling
  | .tieredCalls _ free paid => if premium then paid else free
  | .apiCall => apiCeiling
  | .sleep _ => 0

/-- What is asked of a ledger: what comes of a demand, or that it be granted. -/
inductive Request
  | judge (demand : Demand)
  | ensure (demand : Demand)
  deriving DecidableEq

def Request.demand : Request → Demand
  | judge d => d
  | ensure d => d

/-- Whether a request checks a key. -/
def Request.isFor (key : String) (r : Request) : Bool := r.demand.key? == some key

/-- How many requests of a history check a key. -/
def checksOf (key : String) (history : List Request) : Nat := history.countP (Request.isFor key)

namespace Ledger

/-- What comes of a request, and the ledger after it. -/
def serve (l : Ledger) : Request → Verdict × Ledger
  | .judge d => l.judge d
  | .ensure d => match l.ensure d with
    | (.ok _, after) => (.granted, after)
    | (.error .overflow, after) => (.overflow, after)
    | (.error _, after) => (.refused, after)

/-- The ledger after a history, the first request first.  A run ends where it overflows; should it
be caught there, the history goes on with the ledger as it was. -/
def serveAll (l : Ledger) (history : List Request) : Ledger :=
  history.foldl (fun l r => (l.serve r).2) l

/-- The requests of a history with what came of them. -/
def transcript : Ledger → List Request → List (Request × Verdict)
  | _, [] => []
  | l, r :: rest => (r, (l.serve r).1) :: (l.serve r).2.transcript rest

/-! ### One request -/

section OneRequest

variable (l : Ledger) (d : Demand) (r : Request) (key : String)

/-- A request that must be granted is refused when it is judged to be, and charges the same. -/
theorem serve_eq_judge : l.serve r = l.judge r.demand := by
  cases r with
  | judge d => rfl
  | ensure d =>
    rw [serve, ensure_eq, Request.demand]
    rcases l.judge d with ⟨_ | _ | _, after⟩ <;> rfl

/-- A demand with a key is a check of the key against the demand's ceiling. -/
theorem judge_eq_check {key : String} (h : d.key? = some key) :
    l.judge d = l.check key (d.ceiling l.apiCeiling l.premium) := by
  cases d with
  | calls _ _ | tieredCalls _ _ _ | apiCall =>
    cases h
    rfl
  | sleep _ => exact nomatch h

/-- Counts stop growing and never overflow. -/
theorem judge_ne_overflow {key : String} (h : d.key? = some key) : (l.judge d).1 ≠ .overflow := by
  rw [judge_eq_check l d h, check]
  split <;> simp

theorem judge_counts_of_no_key (h : d.key? = none) : (l.judge d).2.counts = l.counts := by
  cases d with
  | calls _ _ | tieredCalls _ _ _ | apiCall => exact nomatch h
  | sleep seconds => exact counts_checkSleep l seconds

/-- No demand changes the tier or the ceiling of the shared budget. -/
theorem judge_settings :
    (l.judge d).2.apiCeiling = l.apiCeiling ∧ (l.judge d).2.premium = l.premium := by
  cases d with
  | calls _ _ | tieredCalls _ _ _ | apiCall => exact ⟨rfl, rfl⟩
  | sleep seconds =>
    simp only [judge, checkSleep]
    split
    · exact ⟨rfl, rfl⟩
    · split
      · exact ⟨rfl, rfl⟩
      · split <;> exact ⟨rfl, rfl⟩

/-- A demand counts one more call under its key, and leaves all other keys as they are. -/
theorem get?_judge : Entries.get? key (l.judge d).2.counts =
    if d.key? = some key then some (min maxCount (l.count key + 1))
    else Entries.get? key l.counts := by
  rcases hKey : d.key? with _ | own
  · rw [judge_counts_of_no_key l d hKey]
    rfl
  · rw [judge_eq_check l d hKey, check_eq]
    show Entries.get? key (Entries.insert own _ l.counts) = _
    by_cases h : own = key
    · subst h
      simp
    · rw [Entries.get?_insert_of_ne fun heq => h heq.symm, if_neg (by simpa using h)]

theorem count_judge : (l.judge d).2.count key =
    if d.key? = some key then min maxCount (l.count key + 1) else l.count key := by
  rw [count, get?_judge]
  split <;> rfl

theorem ascending_judge (h : Entries.Ascending l.counts) :
    Entries.Ascending (l.judge d).2.counts := by
  rcases hKey : d.key? with _ | own
  · rw [judge_counts_of_no_key l d hKey]
    exact h
  · rw [judge_eq_check l d hKey, check_eq]
    exact Entries.ascending_insert h

end OneRequest

/-! ### Histories -/

section Histories

variable {l m : Ledger} {key : String} (r : Request) (rest history : List Request)

theorem serveAll_cons (l : Ledger) :
    l.serveAll (r :: rest) = (l.judge r.demand).2.serveAll rest := by
  rw [serveAll, List.foldl_cons, serve_eq_judge]
  rfl

theorem checksOf_cons :
    checksOf key (r :: rest) = checksOf key rest + if r.demand.key? = some key then 1 else 0 := by
  simp [checksOf, List.countP_cons, Request.isFor]

/-- The tier and the ceiling of the shared budget after a history are those before it. -/
theorem serveAll_settings :
    (l.serveAll history).apiCeiling = l.apiCeiling ∧ (l.serveAll history).premium = l.premium := by
  induction history generalizing l with
  | nil => exact ⟨rfl, rfl⟩
  | cons r rest ih =>
    obtain ⟨hCeiling, hPremium⟩ := judge_settings l r.demand
    rw [serveAll_cons, ← hCeiling, ← hPremium]
    exact ih

theorem ascending_serveAll (h : Entries.Ascending l.counts) :
    Entries.Ascending (l.serveAll history).counts := by
  induction history generalizing l with
  | nil => exact h
  | cons r rest ih =>
    rw [serveAll_cons]
    exact ih (ascending_judge l r.demand h)

/-- After a history a key that it checked has been counted as often as it was checked. -/
theorem get?_serveAll (h : l.count key ≤ maxCount) :
    Entries.get? key (l.serveAll history).counts =
      if 0 < checksOf key history then some (min maxCount (l.count key + checksOf key history))
      else Entries.get? key l.counts := by
  induction history generalizing l with
  | nil => rfl
  | cons r rest ih =>
    have hCount := count_judge l r.demand key
    have hGet := get?_judge l r.demand key
    have hBound : (l.judge r.demand).2.count key ≤ maxCount := by
      rw [hCount]
      split
      · exact Nat.min_le_left _ _
      · exact h
    rw [serveAll_cons, ih hBound, checksOf_cons, hCount, hGet]
    by_cases hKey : r.demand.key? = some key
    · simp only [if_pos hKey]
      rcases Nat.eq_zero_or_pos (checksOf key rest) with hNone | hSome
      · simp [hNone]
      · rw [if_pos hSome, if_pos (Nat.succ_pos _)]
        congr 1
        omega
    · simp only [if_neg hKey, Nat.add_zero]

theorem count_serveAll (h : l.count key ≤ maxCount) :
    (l.serveAll history).count key = min maxCount (l.count key + checksOf key history) := by
  rw [count, get?_serveAll history h]
  split
  · rfl
  · have hNone : checksOf key history = 0 := by omega
    rw [hNone, Nat.add_zero, Nat.min_eq_right h]
    rfl

/-- Ledgers of one tier and one shared ceiling that agree on a key answer the checks of that key
alike, whatever other keys are checked in between. -/
theorem transcript_filter (hCount : l.count key = m.count key)
    (hCeiling : l.apiCeiling = m.apiCeiling) (hPremium : l.premium = m.premium) :
    (l.transcript history).filter (fun answered => answered.1.isFor key) =
      m.transcript (history.filter (Request.isFor key)) := by
  induction history generalizing l m with
  | nil => rfl
  | cons r rest ih =>
    obtain ⟨hCeilingL, hPremiumL⟩ := judge_settings l r.demand
    have hCountL := count_judge l r.demand key
    rw [transcript, serve_eq_judge, List.filter_cons, List.filter_cons]
    by_cases hKey : r.demand.key? = some key
    · obtain ⟨hCeilingM, hPremiumM⟩ := judge_settings m r.demand
      have hCountM := count_judge m r.demand key
      have hAnswer : (l.judge r.demand).1 = (m.judge r.demand).1 := by
        rw [judge_eq_check l _ hKey, judge_eq_check m _ hKey, check_eq, check_eq, hCount, hCeiling,
          hPremium]
      have hFor : r.isFor key = true := by simp [Request.isFor, hKey]
      rw [if_pos hFor, if_pos hFor, transcript, serve_eq_judge, hAnswer]
      rw [ih (m := (m.judge r.demand).2)]
      · rw [hCountL, hCountM, hCount]
      · rw [hCeilingL, hCeilingM, hCeiling]
      · rw [hPremiumL, hPremiumM, hPremium]
    · have hFor : ¬r.isFor key = true := by simp [Request.isFor, hKey]
      rw [if_neg hKey] at hCountL
      rw [if_neg hFor, if_neg hFor]
      exact ih (hCountL.trans hCount) (hCeilingL.trans hCeiling) (hPremiumL.trans hPremium)

end Histories

/-- After every history of requests each key has been counted as often as it was checked, refused
checks included, until counting stops.  The next check is refused if its count is above its ceiling
then and granted if it is not, asked for a judgement or for a grant, and sleep is not counted.  The
keys that are listed are those that were checked, in their order, and what checks of other keys are
in a history makes no difference to the answers. -/
theorem history_counts (limits : Limits) (premium : Bool) (history : List Request) :
    let fresh := start limits premium
    let l := fresh.serveAll history
    (∀ key, l.count key = min maxCount (checksOf key history)) ∧
    (∀ r key, r.demand.key? = some key →
      (l.serve r).2.count key = min maxCount (checksOf key history + 1) ∧
      (l.serve r).1 =
        if r.demand.ceiling limits.apiCalls premium < (l.serve r).2.count key then .refused
        else .granted) ∧
    (∀ d, ((∃ budget, (l.ensure d).1 = .error (.exhausted budget)) ↔ (l.judge d).1 = .refused) ∧
      ((l.ensure d).1 = .ok () ↔ (l.judge d).1 = .granted) ∧
      (l.ensure d).2 = (l.judge d).2) ∧
    (∀ seconds, (l.judge (.sleep seconds)).2.counts = l.counts) ∧
    Entries.Ascending l.counts ∧
    (∀ key n, (key, n) ∈ l.counts ↔
      0 < checksOf key history ∧ n = min maxCount (checksOf key history)) ∧
    ∀ key, (fresh.transcript history).filter (fun answered => answered.1.isFor key) =
      fresh.transcript (history.filter (Request.isFor key)) := by
  intro fresh l
  have hZero : ∀ key, fresh.count key = 0 := fun key => count_start key limits premium
  have hFresh : ∀ key, fresh.count key ≤ maxCount := fun key => by simp [hZero]
  have hCount : ∀ key, l.count key = min maxCount (checksOf key history) := by
    intro key
    rw [count_serveAll history (hFresh key), hZero, Nat.zero_add]
  have hAscending : Entries.Ascending l.counts := ascending_serveAll history List.Pairwise.nil
  obtain ⟨hCeiling, hPremium⟩ := serveAll_settings (l := fresh) history
  refine ⟨hCount, fun r key hKey => ?_, fun d => ⟨?_, ?_, rfl⟩, counts_checkSleep l, hAscending,
    fun key n => ?_, fun key => transcript_filter history rfl rfl rfl⟩
  · have hAfter : (l.serve r).2.count key = min maxCount (checksOf key history + 1) := by
      rw [serve_eq_judge, count_judge, if_pos hKey, hCount]
      omega
    refine ⟨hAfter, ?_⟩
    rw [serve_eq_judge] at hAfter ⊢
    rw [judge_eq_check l _ hKey] at hAfter ⊢
    rw [hCeiling, hPremium] at hAfter ⊢
    simp [check, fresh, start]
  · rw [ensure_eq]
    cases (l.judge d).1 <;> simp [Verdict.toExcept]
  · rw [ensure_eq]
    cases (l.judge d).1 <;> simp [Verdict.toExcept]
  · rw [Entries.mem_iff_get? hAscending, get?_serveAll history (hFresh key), hZero, Nat.zero_add]
    split
    · rename_i hPos
      simp [hPos, eq_comm]
    · rename_i hNone
      simp [hNone, fresh, start, Entries.get?]

/-- A tenant of the premium tier sorts again after sorting once and failing to sleep. -/
theorem history_counts_second_sort :
    let sorting : Request := .ensure (.tieredCalls "sort" 1 3)
    let l := (start .default true).serveAll [sorting, .judge (.sleep 0), .judge .apiCall]
    sorting.demand.key? = some "sort" ∧ (l.serve sorting).2.count "sort" = 2 ∧
      (l.serve sorting).1 = .granted ∧ ("sort", 1) ∈ l.counts := by
  intro sorting l
  obtain ⟨-, hChecks, -, -, -, hListed, -⟩ :=
    history_counts .default true [sorting, .judge (.sleep 0), .judge .apiCall]
  have hOne : checksOf "sort" [sorting, .judge (.sleep 0), .judge .apiCall] = 1 := by decide
  obtain ⟨hCount, hGranted⟩ := hChecks sorting "sort" rfl
  rw [hOne] at hCount
  rw [hCount, if_neg (by decide)] at hGranted
  exact ⟨rfl, hCount, hGranted, (hListed "sort" 1).mpr (by rw [hOne]; decide)⟩

end Ledger

end BotScript
