import BotScript.Proofs.Acts
import BotScript.Proofs.Pattern.Cached
import Mathlib

/-! The patterns that a run applies.  All frames of an execution share one cache, which only grows,
and a function for patterns applies none that the cache does not hold afterwards.  So a run applies
no more different patterns than the cache may hold. -/

namespace BotScript

open Relation Script

namespace PatternCache

/-- A cache and one that it becomes by requests. -/
def Grows (c d : PatternCache) : Prop := ∃ history, d = c.serveAll Pattern.compile? history

theorem Grows.refl (c : PatternCache) : Grows c c := ⟨[], rfl⟩

theorem Grows.trans {c d e : PatternCache} (h1 : Grows c d) (h2 : Grows d e) : Grows c e := by
  obtain ⟨earlier, rfl⟩ := h1
  obtain ⟨later, rfl⟩ := h2
  exact ⟨earlier ++ later, (serveAll_append earlier later).symm⟩

theorem Grows.of_eq {c d : PatternCache} (h : d = c) : Grows c d := h ▸ .refl c

theorem grows_serve (c : PatternCache) (source : String) :
    Grows c (c.serve Pattern.compile? source).2 := ⟨[source], rfl⟩

theorem Grows.sources {c d : PatternCache} {source : String} (h : Grows c d)
    (hMem : source ∈ c.sources) : source ∈ d.sources := by
  obtain ⟨history, rfl⟩ := h
  exact ((serveAll_keeps history).2.map Prod.fst).subset hMem

end PatternCache

open PatternCache

/-- Compiling a pattern is a request of the session's cache. -/
theorem Script.perform_compile_eq_serve (source : String) (env : Environment) (s : Session) :
    (compile source).perform env s =
      ((s.patterns.serve Pattern.compile? source).1,
        { s with patterns := (s.patterns.serve Pattern.compile? source).2 }) := by
  rw [perform_compile, serve, request]
  rcases s.patterns.requestWith Pattern.compile? source with fault | ⟨p, after⟩ <;> rfl

/-! ### Functions -/

/-- Whether a function applies the pattern of its first argument. -/
def Builtin.appliesPattern : Builtin → Bool
  | reFind | reFindAll | reFindAllSubmatches | reReplace | reSplit => true
  | _ => false

section Functions

variable {arguments : List Value} {env : Environment} {s after : Session} {v : Value}

theorem withPattern_mem {function : String} {f : Pattern → String → Value}
    (h : (withPattern function arguments f).perform env s = (.ok v, after)) :
    (argument arguments 0).toText ∈ after.patterns.sources := by
  obtain ⟨_, s1, -, hRest⟩ := perform_bind_eq_ok.mp h
  obtain ⟨p, s2, hCompile, hLast⟩ := perform_bind_eq_ok.mp hRest
  rw [perform_compile_eq_serve] at hCompile
  have hServed := served Pattern.compile? s1.patterns (argument arguments 0).toText
  obtain ⟨hGiven, rfl⟩ := Prod.mk.inj hCompile
  obtain ⟨-, rfl⟩ := Prod.mk.inj hLast
  exact hServed.mem_sources p hGiven

/-- A pattern that a function applied is in the cache after the call. -/
theorem Builtin.applied_mem {engine : Engine} {b : Builtin} (hApplies : b.appliesPattern = true)
    (h : (b.run engine arguments).perform env s = (.ok v, after)) :
    (argument arguments 0).toText ∈ after.patterns.sources := by
  cases b with
  | reFind | reFindAll | reFindAllSubmatches | reSplit =>
    simp only [run, findMatch, findMatches, findRows, splitAtMatches] at h
    exact withPattern_mem h
  | reReplace =>
    simp only [run, replaceMatches] at h
    obtain ⟨_, s1, -, hRest⟩ := perform_bind_eq_ok.mp h
    exact withPattern_mem hRest
  | _ => exact absurd hApplies Bool.false_ne_true

/-- What a script leaves within its powers has grown the cache. -/
theorem Powers.Leave.grows {p : Powers} {α : Type} {r : Except Fault α} {new : List Event}
    (h : p.Leave s r after new) : Grows s.patterns after.patterns := by
  have hPatterns := h.patterns
  generalize after.patterns = c at hPatterns
  induction hPatterns with
  | refl => exact .refl _
  | @tail before later _ hCompiles ih =>
    obtain ⟨source, pattern, -, hRequest⟩ := hCompiles
    have hServe : (before.serve Pattern.compile? source).2 = later := by
      rw [request] at hRequest
      rw [serve, hRequest]
    exact ih.trans (hServe ▸ grows_serve before source)

end Functions

/-! ### Runs -/

section Runs

variable (name : String) (target : Target) (arguments : List Value) (env : Environment)
  (s : Session)

theorem bodyStart_patterns {t : Template} {start : Session}
    (hStart : bodyStart? name target arguments env s = some (t, start)) :
    start.patterns = s.patterns := by
  obtain ⟨frame, ready, value, hPrepare, -, rfl⟩ :=
    bodyStart?_eq_some name target arguments env s hStart
  rw [← prepare_patterns name target env s, hPrepare]

/-- A run grows the cache, from each function that it calls on. -/
theorem Enacts.grows {env : Environment} {α : Type} {x : Script α} {s : Session} {acts : List Act}
    (h : Enacts env x s acts) : Grows s.patterns (x.perform env s).2.patterns ∧
      ∀ a ∈ acts, Grows a.after.patterns (x.perform env s).2.patterns := by
  induction h with
  | ofExcept | ask | look | editBag | editFrame => exact ⟨.refl _, by simp⟩
  | respond output s =>
    obtain ⟨new, hLast, -⟩ := (respond_confined output).asks env s
    rw [hLast]
    exact ⟨.refl _, by simp⟩
  | goesOn _ hPerform _ ihx ihf =>
    rw [hPerform] at ihx
    rw [perform_bind, hPerform]
    refine ⟨ihx.1.trans ihf.1, fun a ha => ?_⟩
    rcases List.mem_append.mp ha with hLater | hEarlier
    · exact ihf.2 a hLater
    · exact (ihx.2 a hEarlier).trans ihf.1
  | stops _ hPerform ihx =>
    rw [hPerform] at ihx
    rw [perform_bind, hPerform]
    exact ihx
  | outcome _ ih =>
    rw [perform_outcome]
    exact ih
  | @function engine b hOwn arguments s =>
    obtain ⟨new, hLeave⟩ := (b.confined_of_own engine hOwn arguments).leaves env s
    refine ⟨hLeave.grows, fun a ha => ?_⟩
    rw [List.mem_singleton.mp ha]
    exact .refl _
  | @refused engine name target arguments s hStart =>
    obtain ⟨fault, bag, hPerform, -⟩ := perform_nested_of_none name target arguments env s hStart
    rw [hPerform engine]
    exact ⟨.of_eq (prepare_patterns name target env s), by simp⟩
  | @entered engine name target arguments s start t acts hStart _ ih =>
    -- Neither the start of the body nor the delivery of its output compiles anything.
    have hBegin := bodyStart_patterns name target arguments env s hStart
    obtain ⟨new, hLast, -⟩ := deliver_leaves env
      (((engine t).perform env start).2.noting (.ended ((engine t).perform env start).2.frame))
      ((engine t).perform env start).1
    rw [perform_nested_of_start name target arguments env s engine hStart]
    simp only [hLast]
    rw [hBegin] at ih
    exact ih
  | run _ ih => exact ih

end Runs

/-- A call that applied the pattern of a source. -/
def Act.Applies (env : Environment) (a : Act) (source : String) : Prop :=
  a.function.appliesPattern = true ∧ ∃ engine arguments v,
    (a.function.run engine arguments).perform env a.before = (.ok v, a.after) ∧
      (argument arguments 0).toText = source

theorem Act.Applies.mem {env : Environment} {a : Act} {source : String} (h : a.Applies env source) :
    source ∈ a.after.patterns.sources := by
  obtain ⟨hApplies, engine, arguments, v, hPerform, rfl⟩ := h
  exact Builtin.applied_mem hApplies hPerform

/-- The different patterns that a run applies are no more than the cache may hold. -/
theorem Enacts.applied_le {env : Environment} {α : Type} {x : Script α} {acts : List Act}
    (h : Enacts env x env.start acts) {used : List String} (hUsed : used.Nodup)
    (hApplied : ∀ source ∈ used, ∃ a ∈ acts, a.Applies env source) :
    used.length ≤ env.limits.patterns := by
  obtain ⟨⟨history, hLast⟩, hActs⟩ := h.grows
  have hSubset :
      used ⊆ ((empty env.limits.patterns).serveAll Pattern.compile? history).sources := by
    intro source hSource
    obtain ⟨a, ha, hApplies⟩ := hApplied source hSource
    have hMem := (hActs a ha).sources hApplies.mem
    rw [hLast] at hMem
    exact hMem
  calc used.length
      ≤ ((empty env.limits.patterns).serveAll Pattern.compile? history).sources.length :=
        hUsed.length_le_of_subset hSubset
    _ = ((empty env.limits.patterns).serveAll Pattern.compile? history).size := length_sources
    _ ≤ env.limits.patterns := size_serveAll_le _ _ _

/-- After every history a cache that started empty holds the first different well-formed sources, as
many as there may be, and never drops one.  A request gets the pattern of its own source if and only
if the cache has it afterwards.  It is refused for the budget if and only if the source is not
cached and the cache is full, well-formed or not, and as malformed if and only if it is so and the
cache has room, and what is refused changes nothing.  The requests of an execution all go to one
cache, so that a run that starts afresh applies no more different patterns than that may hold. -/
theorem PatternCache.caches_first_valid (compile : String → Option Pattern) (capacity : Nat)
    (history : List String) {env : Environment} {α : Type} {x : Script α} (hx : Composed x) :
    let c := (empty capacity).serveAll compile history
    c.sources.reverse = (validSources compile history).take capacity ∧
    c.size ≤ capacity ∧
    (∀ later, c.patterns <:+ (c.serveAll compile later).patterns) ∧
    (∀ source, let (answer, after) := c.serve compile source
      ((∃ p, answer = .ok p) ↔ source ∈ after.sources) ∧
      (∀ p, answer = .ok p → compile source = some p) ∧
      (answer = .error (.exhausted .patterns) ↔ source ∉ c.sources ∧ c.size = capacity) ∧
      (answer = .error .pattern ↔ compile source = none ∧ c.size < capacity) ∧
      ∀ fault, answer = .error fault → after = c) ∧
    (∀ source (s : Session), (Script.compile source).perform env s =
      let (answer, after) := s.patterns.serve Pattern.compile? source
      (answer, { s with patterns := after })) ∧
    (∃ acts, Enacts env x env.start acts) ∧
    ∀ acts, Enacts env x env.start acts → ∀ used : List String, used.Nodup →
      (∀ source ∈ used, ∃ a ∈ acts, a.Applies env source) → used.length ≤ env.limits.patterns := by
  intro c
  have hHolds : Holds compile history c := holds_serveAll compile capacity history
  have hCapacity : c.capacity = capacity := (serveAll_keeps history).1
  refine ⟨?_, size_serveAll_le compile capacity history, fun later => (serveAll_keeps later).2,
    fun source => ?_, fun source s => perform_compile_eq_serve source env s,
    hx.enacts env env.start, fun acts hActs used hUsed hApplied => hActs.applied_le hUsed hApplied⟩
  · rw [← hCapacity]
    exact hHolds.contents
  · rw [← hCapacity]
    exact (served compile c source).answer hHolds

/-- Five requests of a cache for two patterns, and an execution that looks for one. -/
theorem PatternCache.caches_two_of_three :
    let c := (empty 2).serveAll Pattern.compile? ["a", "(", "b", "a", "c"]
    c.sources.reverse = ["a", "b"] ∧
    (c.serve Pattern.compile? "(").1 = .error (.exhausted .patterns) ∧
    ∃ acts, Enacts sampleEnvironment
        (Builtin.reFind.run (fun _ => pure "") [.text "a", .text "banana"])
        sampleEnvironment.start acts ∧
      ∀ used : List String, used.Nodup →
        (∀ source ∈ used, ∃ a ∈ acts, a.Applies sampleEnvironment source) → used.length ≤ 20 := by
  intro c
  have hComposed : Composed (Builtin.reFind.run (fun _ => pure "") [.text "a", .text "banana"]) :=
    .builtin (fun _ => .pure "") _ _
  obtain ⟨hContents, -, -, hServe, -, ⟨acts, hActs⟩, hApplied⟩ :=
    @PatternCache.caches_first_valid Pattern.compile? 2 ["a", "(", "b", "a", "c"]
      sampleEnvironment _ _ hComposed
  have hFirst : c.sources.reverse = ["a", "b"] := hContents.trans (by cbv)
  obtain ⟨-, -, hFull, -⟩ := hServe "("
  refine ⟨hFirst, hFull.mpr ⟨fun hMem => ?_, ?_⟩, acts, hActs, fun used => hApplied acts hActs used⟩
  · have hListed : "(" ∈ ["a", "b"] := hFirst ▸ List.mem_reverse.mpr hMem
    exact absurd hListed (by decide)
  · rw [← length_sources, ← List.length_reverse, hFirst]
    rfl

end BotScript
