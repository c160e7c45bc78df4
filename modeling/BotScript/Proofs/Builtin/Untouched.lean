import BotScript.Proofs.Pattern.Applied

/-! What functions leave untouched, on success and after every fault.  A function changes no data
and not where its frame sends output.  Of the budgets it changes the keys in `Builtin.charges`
alone, of the intents for the output its own, and of the compiled patterns at most the one that it
was asked for.  `Builtin.run_untouched` says so of all functions but the two that run nested
templates. -/

namespace BotScript

open Relation Script

/-! ### Budgets -/

/-- The keys that a function counts its calls under. -/
def Builtin.charges (arguments : List Value) : Builtin → List String
  | addMessageReactions => ["add_reaction_message"]
  | addReactions => ["add_reaction_trigger"]
  | addResponseReactions => ["add_reaction_response"]
  | deleteMessageReaction => ["del_reaction_message"]
  | deleteMessage | editMessage | giveRoleID | sendMessage | takeRoleID => [Ledger.apiKey]
  | setRoles =>
    match idOf "setRoles" (argument arguments 0) with
    | .ok user => [setRolesKey user, Ledger.apiKey]
    | .error _ => []
  | sort => ["sort"]
  | _ => []

/-- Whether a demand is a function's own: it is counted under a key that the function charges, or it
is for sleep and the function is the one that sleeps. -/
def Builtin.Makes (b : Builtin) (arguments : List Value) (d : Demand) : Prop :=
  match d.key? with
  | some key => key ∈ b.charges arguments
  | none => b = .sleep

/-- The powers of a function, with no demands but its own. -/
def Builtin.scope (arguments : List Value) (b : Builtin) : Powers :=
  { b.powers arguments with demands := b.Makes arguments }

namespace Ledger

variable {l : Ledger} {events : List Event}

/-- A key that no event checks keeps its count. -/
theorem get?_after_of_unchecked {key : String}
    (h : ∀ d granted, .demanded d granted ∈ events → d.key? ≠ some key) :
    Entries.get? key (l.after events).counts = Entries.get? key l.counts := by
  induction events with
  | nil => rfl
  | cons e rest ih =>
    have hRest := ih fun d granted hd => h d granted (List.mem_cons_of_mem e hd)
    cases e with
    | demanded d granted =>
      have hKey : d.key? ≠ some key := h d granted List.mem_cons_self
      have hStep := get?_judge (l.after rest) d key
      rw [if_neg hKey] at hStep
      exact hStep.trans hRest
    | slept _ | called _ _ | began _ | ended _ => exact hRest

/-- Only a demand for sleep adds to the seconds slept. -/
theorem slept_after_of_keyed
    (h : ∀ d granted, .demanded d granted ∈ events → d.key? ≠ none) :
    (l.after events).slept = l.slept := by
  induction events with
  | nil => rfl
  | cons e rest ih =>
    have hRest := ih fun d granted hd => h d granted (List.mem_cons_of_mem e hd)
    cases e with
    | demanded d granted =>
      obtain ⟨key, hKey⟩ := Option.ne_none_iff_exists'.mp (h d granted List.mem_cons_self)
      have hStep : ((l.after rest).judge d).2.slept = (l.after rest).slept := by
        rw [judge_eq_check _ d hKey, check_eq]
        rfl
      exact hStep.trans hRest
    | slept _ | called _ _ | began _ | ended _ => exact hRest

end Ledger

/-- Roles are set under the key of the user whom the first argument names. -/
theorem setRoles_scoped (arguments : List Value) :
    Confined (Builtin.scope arguments .setRoles) (setRoles arguments) := by
  refine .bind (.orMistake _) fun _ => .bind_orMistake fun user hUser => ?_
  have hCharges : Builtin.charges arguments .setRoles = [setRolesKey user, Ledger.apiKey] := by
    simp only [Builtin.charges, hUser]
  have hUserKey : Builtin.setRoles.Makes arguments (.calls (setRolesKey user) 1) := by
    show setRolesKey user ∈ Builtin.charges arguments .setRoles
    simp [hCharges]
  have hApiKey : Builtin.setRoles.Makes arguments .apiCall := by
    show Ledger.apiKey ∈ Builtin.charges arguments .setRoles
    simp [hCharges]
  refine .bind (.demand hUserKey) fun _ => .bind (.demand hApiKey) fun _ =>
    .bind (.orMistake _) fun wanted => .bind (.ask _) fun _ => .bind (.orMissing _ _) fun member =>
    .bind (.ask _) fun guild => .bind (.forM (fun role => .call ?_) _) fun _ =>
    .bind (.forM (fun role => .call ?_) _) fun _ => .pure _
  · exact ⟨guild, user, role, .inl rfl⟩
  · exact ⟨guild, user, role, .inr rfl⟩

/-- No function makes any demand but its own. -/
theorem Builtin.run_scoped (engine : Engine) {b : Builtin} (hTemplate : b ≠ .sendTemplate)
    (hTemplateDM : b ≠ .sendTemplateDM) (arguments : List Value) :
    Confined (b.scope arguments) (b.run engine arguments) := by
  by_cases hRoles : b = .setRoles
  · subst hRoles
    exact setRoles_scoped arguments
  have hConfined := b.run_confined engine hTemplate hTemplateDM arguments
  refine hConfined.mono (fun d hd => ?_) (fun _ => id) (fun _ => id) fun _ _ => id
  cases b with
  | setRoles => exact absurd rfl hRoles
  | addMessageReactions | addReactions | addResponseReactions | deleteMessageReaction
  | deleteMessage | editMessage | giveRoleID | sendMessage | takeRoleID | sort =>
    cases hd
    exact List.mem_singleton_self _
  | sleep =>
    obtain ⟨seconds, rfl⟩ := hd
    rfl
  | _ => exact absurd hd id

/-! ### Frames -/

/-- A frame and one that a function may make of it: it sends output to the same place, and all
intents for the output are the same but the function's own. -/
structure Builtin.KeepsFrame (b : Builtin) (f g : Frame) : Prop where
  channel : g.channel = f.channel
  template : g.template = f.template
  isNested : g.isNested = f.isNested
  sendInDirect : g.sendInDirect = f.sendInDirect
  deletion : b ≠ .deleteResponse →
    g.deleteResponse = f.deleteResponse ∧ g.deleteDelay = f.deleteDelay
  everyone : b ≠ .mentionEveryone → g.mentionEveryone = f.mentionEveryone
  here : b ≠ .mentionHere → g.mentionHere = f.mentionHere
  roles : b ≠ .mentionRoleID → g.mentionRoles = f.mentionRoles
  reactions : b ≠ .addResponseReactions → g.reactions = f.reactions

namespace Builtin.KeepsFrame

variable {b : Builtin} {arguments : List Value} {f g h : Frame}

theorem refl (b : Builtin) (f : Frame) : b.KeepsFrame f f :=
  ⟨rfl, rfl, rfl, rfl, fun _ => ⟨rfl, rfl⟩, fun _ => rfl, fun _ => rfl, fun _ => rfl, fun _ => rfl⟩

theorem trans (h1 : b.KeepsFrame f g) (h2 : b.KeepsFrame g h) : b.KeepsFrame f h where
  channel := h2.channel.trans h1.channel
  template := h2.template.trans h1.template
  isNested := h2.isNested.trans h1.isNested
  sendInDirect := h2.sendInDirect.trans h1.sendInDirect
  deletion hb := ⟨(h2.deletion hb).1.trans (h1.deletion hb).1,
    (h2.deletion hb).2.trans (h1.deletion hb).2⟩
  everyone hb := (h2.everyone hb).trans (h1.everyone hb)
  here hb := (h2.here hb).trans (h1.here hb)
  roles hb := (h2.roles hb).trans (h1.roles hb)
  reactions hb := (h2.reactions hb).trans (h1.reactions hb)

/-- An edit within the powers of a function changes its own intents alone. -/
theorem of_edit (hEdit : (b.powers arguments).edits f g) : b.KeepsFrame f g := by
  cases b with
  | addResponseReactions =>
    obtain ⟨reactions, rfl⟩ := hEdit
    exact { refl _ f with reactions := fun hb => absurd rfl hb }
  | deleteResponse =>
    obtain ⟨on, delay, rfl⟩ := hEdit
    exact { refl _ f with deletion := fun hb => absurd rfl hb }
  | mentionEveryone =>
    cases hEdit
    exact { refl _ f with everyone := fun hb => absurd rfl hb }
  | mentionHere =>
    cases hEdit
    exact { refl _ f with here := fun hb => absurd rfl hb }
  | mentionRoleID =>
    obtain ⟨role, rfl⟩ := hEdit
    unfold Frame.mentionRole
    split
    · exact refl _ f
    · exact { refl _ f with roles := fun hb => absurd rfl hb }
  | _ => exact absurd hEdit id

theorem of_edits (hEdits : ReflTransGen (b.powers arguments).edits f g) : b.KeepsFrame f g := by
  induction hEdits with
  | refl => exact refl b f
  | tail _ hEdit ih => exact ih.trans (of_edit hEdit)

end Builtin.KeepsFrame

/-! ### Patterns -/

/-- A cache and one that a function may make of it: the same one, or, if the function applies
patterns, one with the pattern of its first argument added. -/
def Builtin.KeepsPatterns (b : Builtin) (arguments : List Value) (c d : PatternCache) : Prop :=
  d = c ∨ b.appliesPattern = true ∧ ∃ pattern, (argument arguments 0).toText ∉ c.sources ∧
    Pattern.compile? (argument arguments 0).toText = some pattern ∧
    d = { c with patterns := ((argument arguments 0).toText, pattern) :: c.patterns }

/-- What becomes of a cache by a request that gets its pattern. -/
theorem PatternCache.served_of_request {c d : PatternCache} {source : String} {p : Pattern}
    (h : c.request source = .ok (p, d)) : Served Pattern.compile? c source (.ok p) d := by
  have hServed := served Pattern.compile? c source
  have hServe : c.serve Pattern.compile? source = (.ok p, d) := by
    unfold request at h
    rw [serve, h]
  rw [hServe] at hServed
  exact hServed

/-- Compiling one and the same pattern again adds nothing. -/
theorem Builtin.keepsPatterns_of_compiling {b : Builtin} {arguments : List Value}
    {c d : PatternCache} (hApplies : b.appliesPattern = true)
    (h : ReflTransGen (Powers.compiling arguments).Compiles c d) :
    b.KeepsPatterns arguments c d := by
  induction h with
  | refl => exact .inl rfl
  | @tail mid last _ hLast ih =>
    obtain ⟨source, p, hSource, hRequest⟩ := hLast
    cases (hSource : source = (argument arguments 0).toText)
    have hServed := PatternCache.served_of_request hRequest
    rcases ih with rfl | ⟨-, pattern, hNew, hCompile, rfl⟩
    · cases hServed with
      | cached _ => exact .inl rfl
      | compiled hNew _ hCompile => exact .inr ⟨hApplies, p, hNew, hCompile, rfl⟩
    · cases hServed with
      | cached _ => exact .inr ⟨hApplies, pattern, hNew, hCompile, rfl⟩
      | compiled hAgain _ _ => exact absurd List.mem_cons_self hAgain

theorem Builtin.keepsPatterns {b : Builtin} {arguments : List Value} {c d : PatternCache}
    (h : ReflTransGen (b.scope arguments).Compiles c d) : b.KeepsPatterns arguments c d := by
  cases b with
  | reFind | reFindAll | reFindAllSubmatches | reReplace | reSplit =>
    exact keepsPatterns_of_compiling rfl h
  | _ =>
    rcases h.cases_head with heq | ⟨_, ⟨_, _, hPatterns, _⟩, _⟩
    · exact .inl heq.symm
    · exact absurd hPatterns id

/-! ### Names -/

theorem Builtin.ofName?_name (b : Builtin) : ofName? b.name = some b := by
  cases b <;> rfl

theorem Builtin.call_name (engine : Engine) (b : Builtin) (arguments : List Value) :
    call engine b.name arguments = b.run engine arguments := by
  unfold call
  rw [ofName?_name]

theorem Builtin.call_unknown (engine : Engine) {name : String}
    (hName : ∀ b : Builtin, b.name ≠ name) (arguments : List Value) :
    call engine name arguments = throw (.missing (.function name)) := by
  have hNone : ofName? name = none := by
    unfold ofName?
    rw [List.find?_eq_none]
    intro b _
    simpa using hName b
  unfold call
  rw [hNone]

/-! ### The functions -/

/-- A session and one that a function may leave, which differ in what is the function's own. -/
structure Builtin.Untouched (b : Builtin) (arguments : List Value) (s after : Session) : Prop where
  bag : after.bag = s.bag
  frame : b.KeepsFrame s.frame after.frame
  counts : ∀ key, key ∉ b.charges arguments →
    Entries.get? key after.ledger.counts = Entries.get? key s.ledger.counts
  slept : b ≠ .sleep → after.ledger.slept = s.ledger.slept
  patterns : b.KeepsPatterns arguments s.patterns after.patterns

/-- What a script leaves within the scope of a function. -/
theorem Builtin.untouched_of_leave {b : Builtin} {arguments : List Value} {s after : Session}
    {r : Except Fault Value} {new : List Event} (h : (b.scope arguments).Leave s r after new) :
    b.Untouched arguments s after := by
  have hMakes : ∀ d granted, .demanded d granted ∈ new → b.Makes arguments d :=
    fun d granted hd => h.allowed _ hd
  refine ⟨h.bag, .of_edits h.frame, fun key hKey => ?_, fun hSleep => ?_, keepsPatterns h.patterns⟩
  · rw [h.ledger]
    apply Ledger.get?_after_of_unchecked
    intro d granted hd hCounted
    have hMade := hMakes d granted hd
    unfold Makes at hMade
    rw [hCounted] at hMade
    exact hKey hMade
  · rw [h.ledger]
    apply Ledger.slept_after_of_keyed
    intro d granted hd hUncounted
    have hMade := hMakes d granted hd
    unfold Makes at hMade
    rw [hUncounted] at hMade
    exact hSleep hMade

/-- Whatever becomes of a call, a function leaves the data, the routing of the frame, the budgets
that are not its own, the intents that are not its own, and all patterns but the one that it was
asked for as they were.  A name that no function has is not found, and calling it changes nothing at
all. -/
theorem Builtin.run_untouched (engine : Engine) {b : Builtin} (hTemplate : b ≠ .sendTemplate)
    (hTemplateDM : b ≠ .sendTemplateDM) (arguments : List Value) (env : Environment)
    (s : Session) :
    b.Untouched arguments s ((call engine b.name arguments).perform env s).2 ∧
    ∀ name, (∀ other : Builtin, other.name ≠ name) →
      (call engine name arguments).perform env s = (.error (.missing (.function name)), s) := by
  constructor
  · rw [call_name]
    obtain ⟨new, hLeave⟩ := (b.run_scoped engine hTemplate hTemplateDM arguments).leaves env s
    exact untouched_of_leave hLeave
  · intro name hName
    rw [call_unknown engine hName]
    rfl

/-- Setting the roles of a user whom nobody knows fails after it has charged two keys, and counts
nothing else. -/
theorem Builtin.setRoles_untouched :
    let result := (call (fun _ => pure "") "setRoles" [.text "+7", .int 3]).perform
      sampleEnvironment sampleEnvironment.start
    Builtin.setRoles ≠ .sendTemplate ∧ Builtin.setRoles ≠ .sendTemplateDM ∧
      result.1 = .error (.missing (.member 7)) ∧
      result.2.ledger.counts = [("api_call", 1), ("set_roles7", 1)] ∧
      Entries.get? "set_roles3" result.2.ledger.counts = none ∧ result.2.bag = [] ∧
      result.2.frame.mentionRoles = [] := by
  have hTemplate : Builtin.setRoles ≠ .sendTemplate := by decide
  have hTemplateDM : Builtin.setRoles ≠ .sendTemplateDM := by decide
  obtain ⟨hUntouched, -⟩ := Builtin.run_untouched (fun _ => pure "") hTemplate hTemplateDM
    [.text "+7", .int 3] sampleEnvironment sampleEnvironment.start
  have hCharges : Builtin.charges [.text "+7", .int 3] .setRoles = ["set_roles7", "api_call"] := by
    decide
  exact ⟨hTemplate, hTemplateDM, by rfl, by rfl, hUntouched.counts _ (by rw [hCharges]; decide),
    hUntouched.bag, hUntouched.frame.roles (by decide)⟩

end BotScript
