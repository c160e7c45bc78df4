import BotScript.Pattern.Cache
import Mathlib.Data.List.Induction

/-! Caches of patterns over histories of requests.  `Served` lists what can become of one request.
From it follows what a cache holds after any history: the first of the well-formed sources that were
requested, as many as there may be. -/

namespace BotScript.PatternCache

/-- The answer to a request, and the cache after it.  A refusal leaves the cache as it is. -/
def serve (compile : String → Option Pattern) (c : PatternCache) (source : String) :
    Except Fault Pattern × PatternCache :=
  match c.requestWith compile source with
  | .ok (p, after) => (.ok p, after)
  | .error fault => (.error fault, c)

/-- The cache after a history of requests, the first request first. -/
def serveAll (compile : String → Option Pattern) (c : PatternCache) (history : List String) :
    PatternCache :=
  history.foldl (fun c source => (c.serve compile source).2) c

/-- The sources of the patterns in a cache, the latest first. -/
def sources (c : PatternCache) : List String := c.patterns.map Prod.fst

/-- The different well-formed sources of a history, in the order in which each was first
requested. -/
def validSources (compile : String → Option Pattern) (history : List String) : List String :=
  (history.filter fun source => (compile source).isSome).eraseDups

variable {compile : String → Option Pattern} {c : PatternCache} {source : String}
  {history : List String}

theorem length_sources : c.sources.length = c.size := List.length_map _

/-! ### One request -/

/-- What can become of a request: the answer, and the cache after it. -/
inductive Served (compile : String → Option Pattern) (c : PatternCache) (source : String) :
    Except Fault Pattern → PatternCache → Prop
  | cached {p : Pattern} (hCached : (source, p) ∈ c.patterns) : Served compile c source (.ok p) c
  | full (hNew : source ∉ c.sources) (hFull : c.capacity ≤ c.size) :
      Served compile c source (.error (.exhausted .patterns)) c
  | compiled {p : Pattern} (hNew : source ∉ c.sources) (hRoom : c.size < c.capacity)
      (hCompile : compile source = some p) :
      Served compile c source (.ok p) { c with patterns := (source, p) :: c.patterns }
  | malformed (hNew : source ∉ c.sources) (hRoom : c.size < c.capacity)
      (hCompile : compile source = none) : Served compile c source (.error .pattern) c

theorem mem_of_lookup {p : Pattern} (h : c.patterns.lookup source = some p) :
    (source, p) ∈ c.patterns := by
  obtain ⟨before, after, hSplit, -⟩ := List.lookup_eq_some_iff.mp h
  simp [hSplit]

theorem notMem_of_lookup (h : c.patterns.lookup source = none) : source ∉ c.sources := by
  intro hMem
  obtain ⟨entry, hEntry, rfl⟩ := List.mem_map.mp hMem
  simpa using List.lookup_eq_none_iff.mp h entry hEntry

theorem served (compile : String → Option Pattern) (c : PatternCache) (source : String) :
    Served compile c source (c.serve compile source).1 (c.serve compile source).2 := by
  rw [serve, requestWith]
  rcases hLookup : c.patterns.lookup source with _ | p
  · have hNew := notMem_of_lookup hLookup
    by_cases hFull : c.capacity ≤ c.size
    · simp only [if_pos hFull]
      exact .full hNew hFull
    · have hRoom : c.size < c.capacity := Nat.lt_of_not_le hFull
      rcases hCompile : compile source with _ | p
      · simp only [if_neg hFull]
        exact .malformed hNew hRoom hCompile
      · simp only [if_neg hFull]
        exact .compiled hNew hRoom hCompile
  · exact .cached (mem_of_lookup hLookup)

/-- A pattern that is given is in the cache after the request. -/
theorem Served.mem_sources {answer : Except Fault Pattern} {after : PatternCache}
    (h : Served compile c source answer after) (p : Pattern) (hGiven : answer = .ok p) :
    source ∈ after.sources := by
  cases h with
  | cached hCached => exact List.mem_map.mpr ⟨_, hCached, rfl⟩
  | compiled _ _ _ => exact List.mem_cons_self
  | full _ _ | malformed _ _ _ => exact nomatch hGiven

/-! ### Histories -/

/-- A cache holds the patterns of a history: the first of its well-formed sources, each with what it
compiles to. -/
structure Holds (compile : String → Option Pattern) (history : List String) (c : PatternCache) :
    Prop where
  contents : c.sources.reverse = (validSources compile history).take c.capacity
  compiled : ∀ entry ∈ c.patterns, compile entry.1 = some entry.2
  different : c.sources.Nodup

namespace Holds

theorem size_eq (h : Holds compile history c) :
    c.size = min c.capacity (validSources compile history).length := by
  rw [← length_sources, ← List.length_reverse, h.contents, List.length_take]

theorem size_le (h : Holds compile history c) : c.size ≤ c.capacity := by
  rw [h.size_eq]
  exact Nat.min_le_left _ _

theorem mem_validSources (h : Holds compile history c) (hMem : source ∈ c.sources) :
    source ∈ validSources compile history := by
  have hTake : source ∈ (validSources compile history).take c.capacity := by
    rw [← h.contents]
    exact List.mem_reverse.mpr hMem
  exact List.mem_of_mem_take hTake

/-- A cache that is not full holds all well-formed sources that were requested. -/
theorem contents_of_room (h : Holds compile history c) (hRoom : c.size < c.capacity) :
    c.sources.reverse = validSources compile history := by
  have hSize := h.size_eq
  rw [h.contents]
  exact List.take_of_length_le (by omega)

end Holds

theorem eraseDups_concat (earlier : List String) (source : String) :
    (earlier ++ [source]).eraseDups =
      if source ∈ earlier then earlier.eraseDups else earlier.eraseDups ++ [source] := by
  rw [List.eraseDups_append]
  by_cases hMem : source ∈ earlier
  · rw [if_pos hMem, show [source].removeAll earlier = [] by simp [List.removeAll, hMem]]
    exact List.append_nil _
  · rw [if_neg hMem, show [source].removeAll earlier = [source] by simp [List.removeAll, hMem]]
    rfl

theorem validSources_of_malformed (hCompile : compile source = none) :
    validSources compile (history ++ [source]) = validSources compile history := by
  simp [validSources, List.filter_append, hCompile]

theorem validSources_of_mem (hMem : source ∈ validSources compile history) :
    validSources compile (history ++ [source]) = validSources compile history := by
  have hHistory := List.mem_eraseDups.mp hMem
  have hValid : (compile source).isSome = true := (List.mem_filter.mp hHistory).2
  have hLast : [source].filter (fun source => (compile source).isSome) = [source] := by
    simp [hValid]
  rw [validSources, List.filter_append, hLast, eraseDups_concat, if_pos hHistory, ← validSources]

theorem validSources_of_new {p : Pattern} (hCompile : compile source = some p)
    (hNew : source ∉ validSources compile history) :
    validSources compile (history ++ [source]) = validSources compile history ++ [source] := by
  have hLast : [source].filter (fun source => (compile source).isSome) = [source] := by
    simp [hCompile]
  rw [validSources, List.filter_append, hLast, eraseDups_concat,
    if_neg (mt List.mem_eraseDups.mpr hNew), ← validSources]

/-- One more request takes a cache that holds a history to one that holds the longer history. -/
theorem Holds.serve (h : Holds compile history c) (source : String) :
    Holds compile (history ++ [source]) (c.serve compile source).2 := by
  have hServed := served compile c source
  rcases hServe : c.serve compile source with ⟨answer, after⟩
  rw [hServe] at hServed
  have hGiven := hServed.mem_sources
  cases hServed with
  | @cached p hCached =>
    have hMem := hGiven p rfl
    exact ⟨by rw [validSources_of_mem (h.mem_validSources hMem)]; exact h.contents, h.compiled,
      h.different⟩
  | full hNew hFull =>
    refine ⟨?_, h.compiled, h.different⟩
    -- What is well-formed and new is beyond the capacity.
    have hSize := h.size_eq
    rcases hCompile : compile source with _ | p
    · rw [validSources_of_malformed hCompile]
      exact h.contents
    by_cases hMem : source ∈ validSources compile history
    · rw [validSources_of_mem hMem]
      exact h.contents
    · rw [validSources_of_new hCompile hMem, List.take_append_of_le_length (by omega)]
      exact h.contents
  | @compiled p hNew hRoom hCompile =>
    have hContents := h.contents_of_room hRoom
    have hUnseen : source ∉ validSources compile history := by
      rw [← hContents]
      exact mt List.mem_reverse.mp hNew
    refine ⟨?_, fun entry hEntry => ?_, List.nodup_cons.mpr ⟨hNew, h.different⟩⟩
    · have hLength : (validSources compile history).length = c.size := by
        rw [← hContents, List.length_reverse, length_sources]
      rw [validSources_of_new hCompile hUnseen,
        List.take_of_length_le (by rw [List.length_append, hLength]; exact hRoom), ← hContents]
      exact List.reverse_cons
    · rcases List.mem_cons.mp hEntry with rfl | hOld
      · exact hCompile
      · exact h.compiled entry hOld
  | malformed hNew hRoom hCompile =>
    exact ⟨by rw [validSources_of_malformed hCompile]; exact h.contents, h.compiled, h.different⟩

theorem serveAll_append (earlier later : List String) :
    c.serveAll compile (earlier ++ later) = (c.serveAll compile earlier).serveAll compile later :=
  List.foldl_append

/-- A cache that starts empty holds its history. -/
theorem holds_serveAll (compile : String → Option Pattern) (capacity : Nat)
    (history : List String) :
    Holds compile history ((empty capacity).serveAll compile history) := by
  induction history using List.reverseRecOn with
  | nil => exact ⟨List.take_nil.symm, by simp [serveAll, empty], List.nodup_nil⟩
  | append_singleton earlier source ih =>
    rw [serveAll_append]
    exact ih.serve source

/-- No request changes the capacity of a cache, or drops a pattern from it. -/
theorem serve_keeps : (c.serve compile source).2.capacity = c.capacity ∧
    c.patterns <:+ (c.serve compile source).2.patterns := by
  have hServed := served compile c source
  rcases hServe : c.serve compile source with ⟨answer, after⟩
  rw [hServe] at hServed
  cases hServed with
  | cached _ | full _ _ | malformed _ _ _ => exact ⟨rfl, List.suffix_rfl⟩
  | @compiled p _ _ _ => exact ⟨rfl, List.suffix_cons _ _⟩

theorem serveAll_keeps (history : List String) :
    (c.serveAll compile history).capacity = c.capacity ∧
      c.patterns <:+ (c.serveAll compile history).patterns := by
  induction history generalizing c with
  | nil => exact ⟨rfl, List.suffix_rfl⟩
  | cons source rest ih =>
    obtain ⟨hCapacity, hPatterns⟩ := @serve_keeps compile c source
    obtain ⟨hRestCapacity, hRestPatterns⟩ := ih (c := (c.serve compile source).2)
    exact ⟨hRestCapacity.trans hCapacity, hPatterns.trans hRestPatterns⟩

theorem size_serveAll_le (compile : String → Option Pattern) (capacity : Nat)
    (history : List String) : ((empty capacity).serveAll compile history).size ≤ capacity :=
  Nat.le_trans (holds_serveAll compile capacity history).size_le
    (Nat.le_of_eq (serveAll_keeps history).1)

/-- What the answer says: the pattern is given, the very one that the source compiles to, if and
only if the cache has it after the request, and a refusal has one of two reasons and no effect. -/
theorem Served.answer {answer : Except Fault Pattern} {after : PatternCache}
    (hServed : Served compile c source answer after) (h : Holds compile history c) :
    ((∃ p, answer = .ok p) ↔ source ∈ after.sources) ∧
      (∀ p, answer = .ok p → compile source = some p) ∧
      (answer = .error (.exhausted .patterns) ↔ source ∉ c.sources ∧ c.size = c.capacity) ∧
      (answer = .error .pattern ↔ compile source = none ∧ c.size < c.capacity) ∧
      ∀ fault, answer = .error fault → after = c := by
  have hSize := h.size_le
  have hGiven := hServed.mem_sources
  cases hServed with
  | @cached p hCached =>
    have hMem := hGiven p rfl
    have hCompile : compile source = some p := h.compiled _ hCached
    simp [hMem, hCompile]
  | full hNew hFull =>
    have hEqual : c.size = c.capacity := Nat.le_antisymm hSize hFull
    simp [hNew, hEqual]
  | @compiled p hNew hRoom hCompile =>
    have hMem := hGiven p rfl
    simp [hMem, hCompile, Nat.ne_of_lt hRoom]
  | malformed hNew hRoom hCompile => simp [hNew, hCompile, hRoom, Nat.ne_of_lt hRoom]

end BotScript.PatternCache
