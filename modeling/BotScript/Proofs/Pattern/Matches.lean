import BotScript.Builtin
import Mathlib

/-! The matches of a pattern from left to right, and what is made of them.  A search finds matches
in the part of the text that it was given, and each match stops behind the one before, so that the
steps of `allMatches` are enough: `Scan` says the same without counting them.  Between matches that
are in order there are pieces, and both together are the text.  The main statement compares the
first match, all matches, their groups and the pieces of a text. -/

namespace BotScript.Pattern

/-! ### Where matches lie -/

section Search

variable {p : Program} {text : Array Char}

/-- The threads started at places of a kind. -/
def Begun (P : Nat → Prop) (threads : List Thread) : Prop := ∀ t ∈ threads, P t.start

variable {P : Nat → Prop}

@[simp] theorem begun_nil : Begun P [] := nofun

@[simp] theorem begun_cons {t : Thread} {threads : List Thread} :
    Begun P (t :: threads) ↔ P t.start ∧ Begun P threads := List.forall_mem_cons

/-- Following threads through instructions that take no character starts none. -/
theorem begun_follow {place : Place} {fuel : Nat} {stack : List Thread} {front : Front}
    (hStack : Begun P stack) (hFront : Begun P front.threads) :
    Begun P (follow p place fuel stack front).threads := by
  fun_induction follow p place fuel stack front
  case case1 | case2 => exact hFront
  -- A thread that is given up.
  case case3 ih | case4 ih => exact ih (begun_cons.mp hStack).2 hFront
  -- A thread that waits for a character, or accepts, stays as it is.
  case case5 ih | case6 ih =>
    obtain ⟨hFirst, hRest⟩ := begun_cons.mp hStack
    exact ih hRest (begun_cons.mpr ⟨hFirst, hFront⟩)
  -- The threads that an instruction puts on the stack start where its own did.
  case case7 stack' ih =>
    obtain ⟨hFirst, hRest⟩ := begun_cons.mp hStack
    refine ih ?_ hFront
    unfold stack'
    split
    · exact begun_cons.mpr ⟨hFirst, hRest⟩
    · exact hRest
  case case8 ih =>
    obtain ⟨hFirst, hRest⟩ := begun_cons.mp hStack
    exact ih (begun_cons.mpr ⟨hFirst, begun_cons.mpr ⟨hFirst, hRest⟩⟩) hFront
  case case9 ih =>
    obtain ⟨hFirst, hRest⟩ := begun_cons.mp hStack
    exact ih (begun_cons.mpr ⟨hFirst, hRest⟩) hFront

theorem begun_enter {place : Place} {front : Front} {t : Thread} (hFront : Begun P front.threads)
    (ht : P t.start) : Begun P (enter p place front t).threads :=
  begun_follow (begun_cons.mpr ⟨ht, begun_nil⟩) hFront

/-- Taking a character starts no thread, and a match that ends here is one of a thread. -/
theorem begun_advance {place next : Place} {c : Option Char} {threads : List Thread}
    {front after : Front} {found : Option Found}
    (h : advance p place next c threads front = (found, after)) (hThreads : Begun P threads)
    (hFront : Begun P front.threads) :
    Begun P after.threads ∧ ∀ m, found = some m → P m.start ∧ m.stop = place.index := by
  fun_induction advance p place next c threads front
  case case1 =>
    cases h
    exact ⟨hFront, nofun⟩
  case case2 =>
    cases h
    refine ⟨hFront, ?_⟩
    rintro m ⟨⟩
    exact ⟨(begun_cons.mp hThreads).1, rfl⟩
  case case3 ih =>
    obtain ⟨hFirst, hRest⟩ := begun_cons.mp hThreads
    exact ih h hRest (begun_enter hFront hFirst)
  case case4 ih | case5 ih => exact ih h (begun_cons.mp hThreads).2 hFront

theorem begun_empty : Begun P (Front.empty p).threads := begun_nil

/-- A match lies in a text from `low` on. -/
def Found.Within (m : Found) (low : Nat) (text : Array Char) : Prop :=
  low ≤ m.start ∧ m.start ≤ m.stop ∧ m.stop ≤ text.size

/-- The threads at a place have started between `low` and there, and matches stop where they are
found. -/
theorem searchFrom_within {low fuel index : Nat} {front : Front} {found : Option Found}
    (hLow : low ≤ index) (hFuel : index + fuel ≤ text.size + 1)
    (hFront : Begun (fun start => low ≤ start ∧ start ≤ index) front.threads)
    (hFound : ∀ m, found = some m → m.Within low text) :
    ∀ m, searchFrom p text fuel index front found = some m → m.Within low text := by
  fun_induction searchFrom p text fuel index front found
  case case1 | case2 => exact hFound
  case case3 ih => exact ih (by omega) (by omega) begun_empty nofun
  case case4 fuel index before found place front hSome better nextFront hAdvance ih =>
    -- As long as nothing is found one more thread starts here.
    have hBegun : Begun (fun start => low ≤ start ∧ start ≤ index) front.threads := by
      unfold front
      split
      · exact hFront
      · exact begun_enter hFront ⟨hLow, Nat.le_refl index⟩
    have hReverse : Begun (fun start => low ≤ start ∧ start ≤ index) front.threads.reverse :=
      fun t ht => hBegun t (List.mem_reverse.mp ht)
    obtain ⟨hNext, hBetter⟩ := begun_advance hAdvance hReverse begun_empty
    refine ih (by omega) (by omega) (fun t ht => ?_) fun m hm => ?_
    · obtain ⟨hAfter, hBefore⟩ := hNext t ht
      exact ⟨hAfter, by omega⟩
    · rcases Option.or_eq_some_iff.mp hm with hNew | ⟨-, hOld⟩
      · obtain ⟨⟨hAfter, hBefore⟩, hStop⟩ := hBetter m hNew
        have hPlace : m.stop = index := hStop
        exact ⟨hAfter, by omega, by omega⟩
      · exact hFound m hOld

/-- A match lies in the part of the text that was searched. -/
theorem search_within {index : Nat} {m : Found} (h : p.search text index = some m) :
    m.Within index text := by
  rw [Program.search] at h
  by_cases hFuel : index ≤ text.size + 1
  · have hNone : ∀ m : Found, none = some m → m.Within index text := nofun
    exact searchFrom_within (Nat.le_refl index) (by omega) begun_empty hNone m h
  · rw [Nat.sub_eq_zero_of_le (by omega), searchFrom] at h
    exact nomatch h

end Search

/-! ### Matches one after another -/

section Scan

variable {p : Pattern} {text : Array Char}

/-- The next match from `index` on that is not an empty one at `lastStop`. -/
def next? (p : Pattern) (text : Array Char) (index : Nat) (lastStop : Option Nat) : Option Found :=
  match p.program.search text index with
  | some m =>
    if m.start = m.stop ∧ lastStop = some m.stop then p.program.search text (index + 1) else some m
  | none => none

/-- Matches are all that are found from a place on, each sought from where the one before stops. -/
inductive Scan (p : Pattern) (text : Array Char) : Nat → Option Nat → List Found → Prop
  | done {index : Nat} {lastStop : Option Nat} (hNone : p.next? text index lastStop = none) :
      Scan p text index lastStop []
  | found {index : Nat} {lastStop : Option Nat} {m : Found} {rest : List Found}
      (hNext : p.next? text index lastStop = some m)
      (hRest : Scan p text m.stop (some m.stop) rest) : Scan p text index lastStop (m :: rest)

theorem matchesFrom_succ (fuel index : Nat) (lastStop : Option Nat) :
    p.matchesFrom text (fuel + 1) index lastStop =
      match p.next? text index lastStop with
      | none => []
      | some m => m :: p.matchesFrom text fuel m.stop (some m.stop) := by
  rw [matchesFrom, next?]
  rcases p.program.search text index with _ | m <;> rfl

theorem next?_within {index : Nat} {lastStop : Option Nat} {m : Found}
    (h : p.next? text index lastStop = some m) : m.Within index text := by
  unfold next? at h
  split at h
  · rename_i m' hFirst
    split at h
    · obtain ⟨hLow, hOrder, hHigh⟩ := search_within h
      exact ⟨by omega, hOrder, hHigh⟩
    · cases h
      exact search_within hFirst
  · exact nomatch h

/-- Another match stops further on. -/
theorem lt_stop_of_next? {index : Nat} {m : Found}
    (h : p.next? text index (some index) = some m) : index < m.stop := by
  unfold next? at h
  split at h
  · rename_i m' hFirst
    split at h
    · obtain ⟨hLow, hOrder, -⟩ := search_within h
      omega
    · rename_i hNew
      cases h
      obtain ⟨hLow, hOrder, -⟩ := search_within hFirst
      simp only [Option.some.injEq] at hNew
      omega
  · exact nomatch h

theorem scan_matchesFrom {fuel index : Nat} (hFuel : text.size ≤ index + fuel) :
    Scan p text index (some index) (p.matchesFrom text fuel index (some index)) := by
  induction fuel generalizing index with
  | zero =>
    -- Without steps left the text is at its end, and another match would stop behind it.
    refine .done (Option.eq_none_iff_forall_ne_some.mpr fun m hm => ?_)
    have hFurther := lt_stop_of_next? hm
    obtain ⟨-, -, hHigh⟩ := next?_within hm
    omega
  | succ fuel ih =>
    rw [matchesFrom_succ]
    cases hNext : p.next? text index (some index) with
    | none => exact .done hNext
    | some m =>
      have hFurther := lt_stop_of_next? hNext
      exact .found hNext (ih (by omega))

/-- There are enough steps for all matches of a text. -/
theorem scan_allMatches (p : Pattern) (text : Array Char) :
    Scan p text 0 none (p.allMatches text) := by
  rw [allMatches, matchesFrom_succ]
  cases hNext : p.next? text 0 none with
  | none => exact .done hNext
  | some m => exact .found hNext (scan_matchesFrom (Nat.le_add_left _ _))

theorem Scan.unique {index : Nat} {lastStop : Option Nat} {ms ms' : List Found}
    (h : Scan p text index lastStop ms) (h' : Scan p text index lastStop ms') : ms = ms' := by
  induction h generalizing ms' with
  | done hNone =>
    cases h' with
    | done => rfl
    | found hNext => exact nomatch hNone.symm.trans hNext
  | found hNext _ ih =>
    cases h' with
    | done hNone => exact nomatch hNone.symm.trans hNext
    | found hNext' hRest' =>
      obtain rfl := Option.some.inj (hNext.symm.trans hNext')
      rw [ih hRest']

/-- Matches stop further and further on. -/
theorem Scan.stops {index : Nat} {lastStop : Option Nat} {ms : List Found}
    (h : Scan p text index lastStop ms) :
    (lastStop = some index → ∀ m ∈ ms, index < m.stop) ∧ (ms.map (·.stop)).Pairwise (· < ·) := by
  induction h with
  | done => exact ⟨fun _ => nofun, .nil⟩
  | @found index lastStop m rest hNext _ ih =>
    obtain ⟨hBehind, hRest⟩ := ih
    refine ⟨?_, ?_⟩
    · rintro rfl m' hm'
      have hFirst := lt_stop_of_next? hNext
      rcases List.mem_cons.mp hm' with rfl | hLater
      · exact hFirst
      · exact Nat.lt_trans hFirst (hBehind rfl m' hLater)
    · rw [List.map_cons, List.pairwise_cons]
      exact ⟨List.forall_mem_map.mpr (hBehind rfl), hRest⟩

theorem scan_iff {ms : List Found} : Scan p text 0 none ms ↔ ms = p.allMatches text := by
  constructor
  · exact fun h => h.unique (scan_allMatches p text)
  · rintro rfl
    exact scan_allMatches p text

theorem head?_allMatches (p : Pattern) (text : Array Char) :
    (p.allMatches text).head? = p.program.search text 0 := by
  have hFirst : p.next? text 0 none = p.program.search text 0 := by
    unfold next?
    rcases p.program.search text 0 with _ | m <;> simp
  rw [allMatches, matchesFrom_succ, hFirst]
  rcases p.program.search text 0 with _ | m <;> rfl

end Scan

/-! ### Texts cut at matches -/

section Pieces

variable {text : Array Char}

/-- Matches lie in the text from `low` on, each behind the one before. -/
inductive InOrder (text : Array Char) : Nat → List Found → Prop
  | nil {low : Nat} (hLow : low ≤ text.size) : InOrder text low []
  | cons {low : Nat} {m : Found} {rest : List Found} (hWithin : m.Within low text)
      (hRest : InOrder text m.stop rest) : InOrder text low (m :: rest)

theorem Scan.inOrder {p : Pattern} {index : Nat} {lastStop : Option Nat} {ms : List Found}
    (h : Scan p text index lastStop ms) (hIndex : index ≤ text.size) : InOrder text index ms := by
  induction h with
  | done => exact .nil hIndex
  | found hNext _ ih =>
    have hWithin := next?_within hNext
    exact .cons hWithin (ih hWithin.2.2)

theorem InOrder.take {low : Nat} {ms : List Found} (h : InOrder text low ms) (n : Nat) :
    InOrder text low (ms.take n) := by
  induction h generalizing n with
  | nil hLow => rw [List.take_nil]; exact .nil hLow
  | @cons low m rest hWithin hRest ih =>
    cases n with
    | zero =>
      obtain ⟨hLow, hOrder, hHigh⟩ := hWithin
      exact .nil (by omega)
    | succ n => exact .cons hWithin (ih n)

/-- The elements of two lists in turn, beginning with the first. -/
def interleave {α : Type} : List α → List α → List α
  | a :: as, b :: bs => a :: b :: interleave as bs
  | as, [] => as
  | [], bs => bs

theorem length_piecesBetween (start : Nat) (ms : List Found) :
    (piecesBetween text start ms).length = ms.length + 1 := by
  induction ms generalizing start with
  | nil => rfl
  | cons m rest ih => rw [piecesBetween, List.length_cons, ih, List.length_cons]

theorem slice_append {low middle high : Nat} (hLow : low ≤ middle) (hHigh : middle ≤ high) :
    slice text low middle ++ slice text middle high = slice text low high := by
  unfold slice
  rw [← String.ofList_append, ← Array.toList_append, Array.extract_append_extract]
  congr 4 <;> omega

/-- The pieces between matches with the matches between them are the text. -/
theorem join_interleave {start : Nat} {ms : List Found} (h : InOrder text start ms) :
    String.join (interleave (piecesBetween text start ms) (ms.map (·.text text))) =
      slice text start text.size := by
  induction h with
  | nil => simp [piecesBetween, interleave, String.join]
  | @cons low m rest hWithin hRest ih =>
    obtain ⟨hLow, hOrder, hHigh⟩ := hWithin
    have hRest : m.text text ++ slice text m.stop text.size = slice text m.start text.size :=
      slice_append hOrder hHigh
    simp only [piecesBetween, List.map_cons, interleave, String.join_cons, ih, hRest]
    exact slice_append hLow (Nat.le_trans hOrder hHigh)

end Pieces

/-! ### Counts -/

/-- How many of at most `most` results a count asks for. -/
def Asks (count : Option Int64) (most wanted : Nat) : Prop :=
  (∀ n, count = some n → 0 ≤ n.toInt → wanted = min n.toInt.toNat most) ∧
    ((∀ n, count = some n → n.toInt < 0) → wanted = most)

theorem asks_clampCount (count : Option Int64) (most : Nat) :
    Asks count most (clampCount count most) := by
  cases count with
  | none => exact ⟨nofun, fun _ => rfl⟩
  | some n =>
    refine ⟨?_, fun hNegative => ?_⟩
    · rintro _ ⟨⟩ hLow
      exact if_pos hLow
    · exact if_neg (Int.not_le.mpr (hNegative n rfl))

theorem clampCount_eq_zero_iff {count : Option Int64} {most : Nat} (hMost : 0 < most) :
    clampCount count most = 0 ↔ count = some 0 := by
  cases count with
  | none => simp [clampCount, Nat.ne_of_gt hMost]
  | some n =>
    rw [clampCount]
    have hZero : n = 0 ↔ n.toInt = 0 := Int64.toInt_inj.symm
    split <;> simp only [Option.some.injEq, hZero] <;> omega

theorem head?_findAll (p : Pattern) (s : String) :
    p.find s = (p.findAll s none).head?.getD "" := by
  rw [find, findAll, ← head?_allMatches]
  rcases p.allMatches s.toList.toArray with _ | ⟨m, rest⟩ <;> rfl

/-! ### Rows -/

theorem Expression.le_lastGroup {e : Expression} {n : Nat} (h : e.hasGroup n = true) :
    n ≤ e.lastGroup := by
  induction e with
  | empty | text | one | assertion => exact nomatch h
  | sequence a b iha ihb | choice a b iha ihb =>
    rw [hasGroup, Bool.or_eq_true] at h
    rcases h with hFirst | hSecond
    · exact Nat.le_trans (iha hFirst) (Nat.le_max_left _ _)
    · exact Nat.le_trans (ihb hSecond) (Nat.le_max_right _ _)
  | repetition e _ _ _ ih => exact ih h
  | group m e ih =>
    rw [hasGroup, Bool.or_eq_true, beq_iff_eq] at h
    rcases h with rfl | hInside
    · exact Nat.le_max_left _ _
    · exact Nat.le_trans (ih hInside) (Nat.le_max_right _ _)

/-- A pattern has a row's entries for the whole match and for the groups up to the last. -/
theorem rowLength_of_compile {source : String} {p : Pattern} (h : compile? source = some p) :
    ∃ r, read? source = some r ∧ p.rowLength = r.expression.lastGroup + 1 := by
  obtain ⟨r, hRead, hRest⟩ := Option.bind_eq_some_iff.mp h
  refine ⟨r, hRead, ?_⟩
  by_cases hFits : r.expression.fits = true
  · simp [hFits] at hRest
    rw [← hRest]
  · simp [hFits] at hRest

theorem row_eq (m : Found) (text : Array Char) (groups : Nat) :
    (List.range (groups + 1)).map (m.group text) =
      m.text text :: (List.range groups).map fun n => m.group text (n + 1) := by
  rw [List.range_succ_eq_map, List.map_cons, List.map_map]
  rfl

/-- Each match gives a row with its text and the texts of all groups of the expression. -/
theorem findRows_of_compile {source : String} {p : Pattern} (h : compile? source = some p)
    (s : String) (count : Option Int64) :
    ∃ r, read? source = some r ∧ p.findRows s count =
      ((p.allMatches s.toList.toArray).take (clampCount count maxRows)).map fun m =>
        m.text s.toList.toArray ::
          (List.range r.expression.lastGroup).map fun n => m.group s.toList.toArray (n + 1) := by
  obtain ⟨r, hRead, hRow⟩ := rowLength_of_compile h
  refine ⟨r, hRead, ?_⟩
  simp only [findRows, hRow, row_eq]

/-! ### Pieces -/

theorem slice_whole (s : String) : slice s.toList.toArray 0 s.toList.toArray.size = s := by
  simp [slice]

/-- A text is split into pieces as many as are asked for and as there are, which give it back with
the matches between them. -/
theorem split_of_ne_zero (p : Pattern) (s : String) {count : Option Int64}
    (hCount : count ≠ some 0) :
    let all := (p.allMatches s.toList.toArray).map (·.text s.toList.toArray)
    (p.split s count).length = min (clampCount count maxPieces) (all.length + 1) ∧
      String.join (interleave (p.split s count) (all.take ((p.split s count).length - 1))) = s := by
  intro all
  have hPositive : clampCount count maxPieces ≠ 0 :=
    fun hZero => hCount ((clampCount_eq_zero_iff (by decide)).mp hZero)
  obtain ⟨limit, hLimit⟩ := Nat.exists_eq_succ_of_ne_zero hPositive
  have hSplit : p.split s count =
      piecesBetween s.toList.toArray 0 ((p.allMatches s.toList.toArray).take limit) := by
    rw [split, hLimit]
  have hLength : (p.split s count).length = min limit all.length + 1 := by
    rw [hSplit, length_piecesBetween, List.length_take, List.length_map]
  have hTake : all.take ((p.split s count).length - 1) =
      ((p.allMatches s.toList.toArray).take limit).map (·.text s.toList.toArray) := by
    rw [hLength, Nat.add_sub_cancel, List.map_take, List.take_eq_take_min (i := limit)]
  have hInOrder := ((scan_allMatches p s.toList.toArray).inOrder (Nat.zero_le _)).take limit
  constructor
  · rw [hLength, hLimit]
    omega
  · rw [hTake, hSplit, join_interleave hInOrder, slice_whole]

/-! ### All together -/

/-- The functions of scripts apply a pattern to their second argument. -/
theorem withPattern_of_compile {function : String} {arguments : List Value}
    (f : Pattern → String → Value) {env : Environment} {before after : Session} {p : Pattern}
    (hLength : 2 ≤ arguments.length)
    (h : (Script.compile (argument arguments 0).toText).perform env before = (.ok p, after)) :
    (Script.withPattern function arguments f).perform env before =
      (.ok (f p (argument arguments 1).toText), after) := by
  unfold Script.withPattern
  rw [requireArguments_of_le hLength, Script.perform_bind]
  change ((Script.compile _) >>= _).perform env before = _
  rw [Script.perform_bind, h]
  rfl

/-- What a compiled pattern finds in a text is in agreement.  The matches lie in the text one behind
the other, no two of them stop at the same place, and there is no other way to go through the text.
The first match is the first of all, or nothing if there is none.  A count takes so many matches
from the front, and each row begins with the text of its match and has an entry for every group.  A
count of zero leaves no pieces.  Any other gives one piece more than there are matches, or as many
as are wanted, and the pieces with the matches between them are the text.  The functions of scripts
give just these results. -/
theorem searches_agree {source : String} {p : Pattern} (hCompile : compile? source = some p)
    (s : String) (count : Option Int64) :
    let text := s.toList.toArray
    let found := p.allMatches text
    let all := found.map (·.text text)
    (∀ ms, Scan p text 0 none ms ↔ ms = found) ∧
    InOrder text 0 found ∧ (found.map (·.stop)).Pairwise (· < ·) ∧
    p.find s = all.head?.getD "" ∧
    p.find s = (p.findAll s none).head?.getD "" ∧
    (∃ wanted, Asks count 1000 wanted ∧ p.findAll s count = all.take wanted ∧
      (p.findAll s count).length = min wanted found.length) ∧
    (∃ r, read? source = some r ∧
      (∀ n, r.expression.hasGroup n = true → n ≤ r.expression.lastGroup) ∧
      ∃ wanted, Asks count 100 wanted ∧
        (p.findRows s count).map List.head? = (all.take wanted).map some ∧
        p.findRows s count = (found.take wanted).map fun m =>
          m.text text :: (List.range r.expression.lastGroup).map fun n => m.group text (n + 1)) ∧
    (count = some 0 → p.split s count = []) ∧
    (count ≠ some 0 → ∃ wanted, Asks count 500 wanted ∧
      (p.split s count).length = min wanted (found.length + 1) ∧
      String.join (interleave (p.split s count) (all.take ((p.split s count).length - 1))) = s) ∧
    ∀ engine arguments env before after, 2 ≤ arguments.length →
      (Script.compile (argument arguments 0).toText).perform env before = (.ok p, after) →
      (argument arguments 1).toText = s → Script.countOf arguments = count →
      (Builtin.reFind.run engine arguments).perform env before = (.ok (.text (p.find s)), after) ∧
      (Builtin.reFindAll.run engine arguments).perform env before =
        (.ok (Script.texts (p.findAll s count)), after) ∧
      (Builtin.reFindAllSubmatches.run engine arguments).perform env before =
        (.ok (.list ((p.findRows s count).map Script.texts)), after) ∧
      (Builtin.reSplit.run engine arguments).perform env before =
        (.ok (Script.texts (p.split s count)), after) := by
  intro text found all
  obtain ⟨r, hRead, hRows⟩ := findRows_of_compile hCompile s count
  have hFindAll : p.findAll s count = all.take (clampCount count maxMatches) := List.map_take
  have hScan : Scan p text 0 none found := scan_allMatches p text
  refine ⟨fun ms => scan_iff, hScan.inOrder (Nat.zero_le _), hScan.stops.2, ?_,
    head?_findAll p s, ⟨_, asks_clampCount count _, hFindAll, ?_⟩,
    ⟨r, hRead, fun n => Expression.le_lastGroup, _, asks_clampCount count _, ?_, hRows⟩, ?_,
    fun hCount => ?_, ?_⟩
  · rw [List.head?_map, head?_allMatches]
    rfl
  · rw [hFindAll, List.length_take, List.length_map]
    rfl
  · rw [hRows, ← List.map_take, List.map_map, List.map_map]
    rfl
  · rintro rfl
    rfl
  · obtain ⟨hLength, hJoin⟩ := split_of_ne_zero p s hCount
    rw [List.length_map] at hLength
    exact ⟨_, asks_clampCount count _, hLength, hJoin⟩
  · rintro engine arguments env before after hLeast hGiven rfl rfl
    refine ⟨?_, ?_, ?_, ?_⟩
    · exact withPattern_of_compile (fun q t => .text (q.find t)) hLeast hGiven
    · exact withPattern_of_compile (fun q t => Script.texts (q.findAll t _)) hLeast hGiven
    · exact withPattern_of_compile (fun q t => .list ((q.findRows t _).map Script.texts)) hLeast
        hGiven
    · exact withPattern_of_compile (fun q t => Script.texts (q.split t _)) hLeast hGiven

/-- A text split in three, at an empty match and at one that is not. -/
theorem searches_agree_limited : ∃ p, compile? "b*" = some p ∧
    p.split "abc" (some 3) = ["", "a", "c"] ∧
    String.join (interleave (p.split "abc" (some 3)) (p.findAll "abc" (some 2))) = "abc" := by
  have hSplits : (compile? "b*").map (fun p => p.split "abc" (some 3)) = some ["", "a", "c"] := by
    cbv
  obtain ⟨p, hCompile, hSplit⟩ := Option.map_eq_some_iff.mp hSplits
  obtain ⟨-, -, -, -, -, ⟨two, hTwo, hFindAll, -⟩, -⟩ := searches_agree hCompile "abc" (some 2)
  obtain ⟨-, -, -, -, -, -, -, -, hRebuild, -⟩ := searches_agree hCompile "abc" (some 3)
  obtain ⟨three, -, -, hJoin⟩ := hRebuild (by decide)
  obtain rfl : two = 2 := hTwo.1 2 rfl (by decide)
  refine ⟨p, hCompile, hSplit, ?_⟩
  rw [hFindAll]
  rw [hSplit] at hJoin ⊢
  exact hJoin

end BotScript.Pattern
