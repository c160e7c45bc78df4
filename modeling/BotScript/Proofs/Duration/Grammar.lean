import BotScript.Coercion
import BotScript.Proofs.Binary64.Read
import BotScript.Proofs.Binary64.Rounding

/-! Which texts are read as durations.  A text is cut into groups in the way its grammar says and in
no other, and a text in groups is no number.  Numbers of seconds are read more freely than the
numbers of groups: they may have a sign and an exponent. -/

namespace BotScript

namespace Duration

open Binary64 (InNumber unitsPerOne)
open Numeral (IsDecimal IsExponent signs)

/-! ### The grammar -/

/-- A number lies strictly within the range of 64-bit integers. -/
def Below (x : Binary64) : Prop := x.isFinite ∧ x.units < 0x8000000000000000 * unitsPerOne

/-- A group opens a text: a number and the name of a unit that no letter follows, with white space
behind them or none. -/
inductive Opens : List Char → Group → List Char → Prop
  | mk {number gap unit trailing rest amount unitNanos} :
    IsDecimal number → Binary64.read? (String.ofList number) = some amount →
    (∀ c ∈ gap, isBlank c) →
    unitNanos? (String.ofList unit) = some unitNanos → Stops isAlphabetic (trailing ++ rest) →
    (∀ c ∈ trailing, isBlank c) →
    Opens (number ++ (gap ++ (unit ++ (trailing ++ rest)))) ⟨amount, unitNanos⟩ rest

/-- A text is a sequence of groups. -/
inductive Grouped : List Char → List Group → Prop
  | nil : Grouped [] []
  | cons {cs g rest gs} : Opens cs g rest → Grouped rest gs → Grouped cs (g :: gs)

/-- The texts that are documented as durations: a decimal number of seconds, or groups. -/
inductive Documented (cs : List Char) : Prop
  | seconds {x} : IsDecimal cs → Binary64.read? (String.ofList cs) = some x →
    Below (x.mul (.ofNat 1000000000)) → Documented cs
  | groups {gs} : gs ≠ [] → Grouped cs gs → Below (total gs) → Documented cs

/-- A number of seconds that has a sign or an exponent. -/
inductive Scientific : List Char → Prop
  | mk {sign mantissa exponent x} : sign ∈ signs → IsDecimal mantissa →
    (exponent = [] ∨ IsExponent exponent) → (sign ≠ [] ∨ exponent ≠ []) →
    Binary64.read? (String.ofList (sign ++ (mantissa ++ exponent))) = some x →
    Below (x.mul (.ofNat 1000000000)) → Scientific (sign ++ (mantissa ++ exponent))

/-- A text as its duration is read: in lower case, without white space around it. -/
def prepared (s : String) : List Char := (lowerCase (String.ofList (trimBlank s.toList))).toList

/-! ### Characters -/

theorem isNumberChar_iff {c : Char} : isNumberChar c = true ↔ InNumber c := by
  simp [isNumberChar, InNumber]

theorem isBlank_of_inNumber {c : Char} (h : InNumber c) : isBlank c = false := by
  rcases h with h | rfl
  · simp only [isDigit, Bool.and_eq_true, decide_eq_true_eq] at h
    have hLow : 48 ≤ c.toNat := h.1
    have hHigh : c.toNat ≤ 57 := h.2
    simp only [isBlank, Bool.or_eq_false_iff, Bool.and_eq_false_iff, decide_eq_false_iff_not,
      beq_eq_false_iff_ne]
    omega
  · decide

/-- Whether a text consists of letters, none of which could belong to a number, and does not begin
like an exponent. -/
def isLetters (cs : List Char) : Bool :=
  !cs.isEmpty && (cs.all fun c => isAlphabetic c && !isBlank c && !isNumberChar c) &&
    cs.head?.all fun c => c != 'e' && c != 'E'

theorem unitNames_letters :
    ((unitNames.flatMap (·.1)).all fun name => isLetters name.toList) = true := by
  decide

theorem letters_of_unitNanos? {unit : List Char} {n : Nat}
    (h : unitNanos? (String.ofList unit) = some n) :
    unit ≠ [] ∧ (∀ c ∈ unit, isAlphabetic c ∧ isBlank c = false ∧ isNumberChar c = false) ∧
      ∀ c ∈ unit.head?, c ≠ 'e' ∧ c ≠ 'E' := by
  obtain ⟨names, hFound, -⟩ := Option.map_eq_some_iff.mp h
  have hName : String.ofList unit ∈ names.1 := by simpa using List.find?_some hFound
  have hLetters := List.all_eq_true.mp unitNames_letters _ (List.mem_flatMap.mpr
    ⟨names, List.mem_of_find?_eq_some hFound, hName⟩)
  rw [String.toList_ofList] at hLetters
  simpa [isLetters, and_assoc, Option.all_eq_true] using hLetters

section Group

variable {number gap unit tail cs rest : List Char} {g : Group} {gs : List Group} {n : Nat}

/-- A character with which a run does not go on. -/
theorem stops_append {p : Char → Bool} {us vs : List Char} (hus : us ≠ [])
    (h : ∀ c ∈ us.head?, p c = false) : Stops p (us ++ vs) := by
  obtain ⟨c, rest, rfl⟩ := List.exists_cons_of_ne_nil hus
  exact stops_cons (h c rfl)

theorem stops_blank_unit (hUnit : unitNanos? (String.ofList unit) = some n) :
    Stops isBlank (unit ++ tail) := by
  obtain ⟨hNonempty, hLetters, -⟩ := letters_of_unitNanos? hUnit
  exact stops_append hNonempty fun c hc => (hLetters c (List.mem_of_mem_head? hc)).2.1

theorem isNumberChar_of_blank {c : Char} (h : isBlank c = true) : isNumberChar c = false := by
  by_contra hNumber
  rw [Bool.not_eq_false, isNumberChar_iff] at hNumber
  rw [isBlank_of_inNumber hNumber] at h
  exact nomatch h

/-- The number of a group ends where the white space or the unit begins. -/
theorem stops_number (hGap : ∀ c ∈ gap, isBlank c)
    (hUnit : unitNanos? (String.ofList unit) = some n) :
    Stops isNumberChar (gap ++ (unit ++ tail)) := by
  cases gap with
  | nil =>
    obtain ⟨hNonempty, hLetters, -⟩ := letters_of_unitNanos? hUnit
    rw [List.nil_append]
    exact stops_append hNonempty fun c hc => (hLetters c (List.mem_of_mem_head? hc)).2.2
  | cons c gap => exact stops_cons (isNumberChar_of_blank (hGap c List.mem_cons_self))

theorem isNumberChar_of_isDecimal (h : IsDecimal number) : ∀ c ∈ number, isNumberChar c :=
  fun c hc => isNumberChar_iff.mpr (h.chars c hc)

/-! ### The loop -/

/-- One round of the loop: the group at the front of a text and what is left to read. -/
def nextGroup? (cs : List Char) : Option (Group × List Char) :=
  let afterNumber := trimLeft (cs.dropWhile isNumberChar)
  match Binary64.read? (String.ofList (cs.takeWhile isNumberChar)),
      unitNanos? (String.ofList (afterNumber.takeWhile isAlphabetic)) with
  | some amount, some unitNanos =>
    some (⟨amount, unitNanos⟩, trimLeft (afterNumber.dropWhile isAlphabetic))
  | _, _ => none

theorem readGroups_eq (cs : List Char) :
    readGroups cs = if cs = [] then some []
      else (nextGroup? cs).bind fun next => (readGroups next.2).map (next.1 :: ·) := by
  rw [readGroups, nextGroup?]
  simp only [List.isEmpty_iff]
  split
  · rfl
  · split
    · rename_i hNone
      have hRead : Binary64.read? (String.ofList []) = none := by decide
      rw [hNone, hRead]
      rfl
    · split <;> simp_all

theorem nextGroup?_eq_some_iff :
    nextGroup? cs = some (g, rest) ↔ Opens cs g rest ∧ Stops isBlank rest := by
  constructor
  · intro h
    obtain ⟨number, afterNumber, rfl, hNumber, hStops⟩ := exists_run isNumberChar cs
    obtain ⟨gap, afterGap, rfl, hGap, hStopsGap⟩ := exists_run isBlank afterNumber
    obtain ⟨unit, afterUnit, rfl, hUnit, hStopsUnit⟩ := exists_run isAlphabetic afterGap
    obtain ⟨trailing, left, rfl, hTrailing, hLeft⟩ := exists_run isBlank afterUnit
    simp only [nextGroup?, trimLeft, takeWhile_append_of_stops hNumber hStops,
      dropWhile_append_of_stops hNumber hStops, dropWhile_append_of_stops hGap hStopsGap,
      takeWhile_append_of_stops hUnit hStopsUnit, dropWhile_append_of_stops hUnit hStopsUnit,
      dropWhile_append_of_stops hTrailing hLeft] at h
    split at h
    · rename_i hAmount hNanos
      cases h
      have hDecimal := Binary64.isDecimal_of_read? (fun c hc => isNumberChar_iff.mp (hNumber c hc))
        (Option.isSome_of_eq_some hAmount)
      exact ⟨.mk hDecimal hAmount hGap hNanos hStopsUnit hTrailing, hLeft⟩
    · cases h
  · rintro ⟨⟨hDecimal, hAmount, hGap, hUnit, hLongest, hTrailing⟩, hRest⟩
    have hNumber := isNumberChar_of_isDecimal hDecimal
    have hLetters := fun c hc => ((letters_of_unitNanos? hUnit).2.1 c hc).1
    simp only [nextGroup?, trimLeft, takeWhile_append_of_stops hNumber (stops_number hGap hUnit),
      dropWhile_append_of_stops hNumber (stops_number hGap hUnit),
      dropWhile_append_of_stops hGap (stops_blank_unit hUnit),
      takeWhile_append_of_stops hLetters hLongest, dropWhile_append_of_stops hLetters hLongest,
      dropWhile_append_of_stops hTrailing hRest, hAmount, hUnit]

/-- The loop comes to an end: every round leaves less. -/
theorem length_lt_of_nextGroup? (h : nextGroup? cs = some (g, rest)) :
    rest.length < cs.length := by
  obtain ⟨⟨hDecimal⟩, -⟩ := nextGroup?_eq_some_iff.mp h
  obtain ⟨c, digits, rfl, -⟩ := Binary64.IsDecimal.exists_cons hDecimal
  simp only [List.length_append, List.length_cons]
  omega

theorem Opens.exists_cons (h : Opens cs g rest) : ∃ c cs', cs = c :: cs' ∧ InNumber c := by
  obtain ⟨hDecimal⟩ := h
  obtain ⟨c, digits, rfl, hc⟩ := Binary64.IsDecimal.exists_cons hDecimal
  exact ⟨c, _, rfl, hc⟩

theorem Grouped.stops (h : Grouped cs gs) : Stops isBlank cs := by
  cases h with
  | nil => exact stops_nil
  | cons hOpens =>
    obtain ⟨c, cs', rfl, hc⟩ := hOpens.exists_cons
    exact stops_cons (isBlank_of_inNumber hc)

/-- The loop cuts a text as the grammar does. -/
theorem readGroups_eq_some_iff : readGroups cs = some gs ↔ Grouped cs gs := by
  constructor
  · intro h
    induction gs generalizing cs with
    | nil =>
      rw [readGroups_eq] at h
      split at h
      · subst cs
        exact .nil
      · simp [Option.bind_eq_some_iff] at h
    | cons g gs ih =>
      rw [readGroups_eq] at h
      split at h
      · simp at h
      · obtain ⟨⟨first, rest⟩, hNext, hRest⟩ := Option.bind_eq_some_iff.mp h
        obtain ⟨others, hOthers, hSame⟩ := Option.map_eq_some_iff.mp hRest
        cases hSame
        exact .cons (nextGroup?_eq_some_iff.mp hNext).1 (ih hOthers)
  · intro h
    induction h with
    | nil => rw [readGroups_eq, if_pos rfl]
    | cons hOpens hRest ih =>
      obtain ⟨c, cs', hcs, -⟩ := hOpens.exists_cons
      rw [readGroups_eq, if_neg (by simp [hcs]), nextGroup?_eq_some_iff.mpr ⟨hOpens, hRest.stops⟩,
        Option.bind_some, ih, Option.map_some]

/-- A unit does not look like an exponent. -/
theorem not_exponent (hGap : ∀ c ∈ gap, isBlank c)
    (hUnit : unitNanos? (String.ofList unit) = some n) :
    ¬(gap ++ (unit ++ tail) = [] ∨ IsExponent (gap ++ (unit ++ tail))) := by
  obtain ⟨hNonempty, -, hHead⟩ := letters_of_unitNanos? hUnit
  obtain ⟨u, us, rfl⟩ := List.exists_cons_of_ne_nil hNonempty
  rintro (hEmpty | hExponent)
  · simp at hEmpty
  · generalize hText : gap ++ (u :: us ++ tail) = text at hExponent
    obtain @⟨e, sign, digits, he, -⟩ := hExponent
    cases gap with
    | nil =>
      obtain ⟨rfl, -⟩ := List.cons.inj hText
      exact he.elim (hHead _ rfl).1 (hHead _ rfl).2
    | cons c gap =>
      have hBlank := hGap c List.mem_cons_self
      rw [(List.cons.inj hText).1] at hBlank
      rcases he with rfl | rfl
      · exact absurd hBlank (by decide)
      · exact absurd hBlank (by decide)

theorem stops_exponent {exponent : List Char} (h : exponent = [] ∨ IsExponent exponent) :
    Stops isNumberChar exponent := by
  rcases h with rfl | ⟨rfl | rfl⟩
  · exact stops_nil
  · exact stops_cons rfl
  · exact stops_cons rfl

/-- A text in groups is no number. -/
theorem Opens.read_eq_none (h : Opens cs g rest) : Numeral.read cs = none := by
  have hNone : ¬(Numeral.read cs).isSome := by
    intro hSome
    obtain ⟨mantissa, exponent, hSplit, hMantissa, hExponent⟩ := Numeral.read_isSome_iff.mp hSome
    obtain ⟨hDecimal, -, hGap, hUnit, -⟩ := h
    obtain ⟨-, rfl⟩ := append_inj_of_stops (isNumberChar_of_isDecimal hDecimal)
      (isNumberChar_of_isDecimal hMantissa) (stops_number hGap hUnit) (stops_exponent hExponent)
      hSplit
    exact not_exponent hGap hUnit hExponent
  simpa using hNone

theorem Opens.read?_eq_none (h : Opens cs g rest) : Binary64.read? (String.ofList cs) = none := by
  have hNone := h.read_eq_none
  obtain ⟨c, cs', rfl, hc⟩ := h.exists_cons
  rw [Binary64.read?_cons hc, hNone, Option.map_none]

theorem Grouped.exists_opens (h : Grouped cs gs) (hSome : gs ≠ []) : ∃ g rest, Opens cs g rest := by
  cases h with
  | nil => exact absurd rfl hSome
  | cons hOpens => exact ⟨_, _, hOpens⟩

theorem Grouped.read?_eq_none (h : Grouped cs gs) (hSome : gs ≠ []) :
    cs ≠ [] ∧ Binary64.read? (String.ofList cs) = none := by
  obtain ⟨g, rest, hOpens⟩ := h.exists_opens hSome
  refine ⟨?_, hOpens.read?_eq_none⟩
  obtain ⟨c, cs', rfl, -⟩ := hOpens.exists_cons
  exact List.cons_ne_nil c cs'

end Group

/-! ### Numbers and durations -/

theorem isSome_ofBinary64?_iff {x : Binary64} : (ofBinary64? x).isSome ↔ Below x := by
  rw [ofBinary64?]
  split
  · rename_i h
    rw [Bool.and_eq_true, decide_eq_true_eq] at h
    have hRounded : x.roundHalfAway.natAbs ≤ maxNanos := by
      have hLess := h.2
      rw [Binary64.natAbs_roundHalfAway]
      generalize unitsPerOne = one at *
      apply Nat.le_of_lt_succ
      apply Nat.div_lt_of_lt_mul
      simp only [maxNanos]
      omega
    rw [ofNanos?, dif_pos hRounded]
    exact iff_of_true rfl h
  · rename_i h
    rw [Bool.and_eq_true, decide_eq_true_eq] at h
    exact iff_of_false nofun h

/-! ### Whole texts -/

section Whole

variable {s : String} {cs : List Char} {x : Binary64}

theorem readNanos?_of_number (hRead : Binary64.read? (String.ofList (prepared s)) = some x) :
    readNanos? s = some (x.mul (.ofNat 1000000000)) := by
  have hSome : (prepared s).isEmpty = false := by
    rw [List.isEmpty_eq_false_iff]
    intro hEmpty
    have hNone : Binary64.read? (String.ofList []) = none := by decide
    rw [hEmpty, hNone] at hRead
    exact nomatch hRead
  rw [prepared] at hRead hSome
  simp only [readNanos?, hSome, hRead, Bool.false_eq_true, if_false]

theorem readNanos?_of_groups (hRead : Binary64.read? (String.ofList (prepared s)) = none) :
    readNanos? s = if prepared s = [] then none else (readGroups (prepared s)).map total := by
  rw [prepared] at hRead ⊢
  simp only [readNanos?, hRead, List.isEmpty_iff]

theorem isSome_read?_of_number (hRead : Binary64.read? (String.ofList (prepared s)) = some x) :
    (read? s).isSome ↔ Below (x.mul (.ofNat 1000000000)) := by
  rw [read?, readNanos?_of_number hRead, Option.bind_some]
  exact isSome_ofBinary64?_iff

theorem isSome_read?_of_groups (hRead : Binary64.read? (String.ofList (prepared s)) = none) :
    (read? s).isSome ↔ ∃ gs, gs ≠ [] ∧ Grouped (prepared s) gs ∧ Below (total gs) := by
  rw [read?, readNanos?_of_groups hRead]
  generalize prepared s = cs
  constructor
  · intro h
    split at h
    · exact nomatch h
    · rename_i hSome
      obtain ⟨d, hd⟩ := Option.isSome_iff_exists.mp h
      obtain ⟨nanos, hNanos, hd⟩ := Option.bind_eq_some_iff.mp hd
      obtain ⟨gs, hgs, rfl⟩ := Option.map_eq_some_iff.mp hNanos
      have hGrouped := readGroups_eq_some_iff.mp hgs
      refine ⟨gs, ?_, hGrouped, isSome_ofBinary64?_iff.mp (Option.isSome_of_eq_some hd)⟩
      rintro rfl
      cases hGrouped
      exact hSome rfl
  · rintro ⟨gs, hSome, hGrouped, hBelow⟩
    rw [if_neg (hGrouped.read?_eq_none hSome).1]
    rw [readGroups_eq_some_iff.mpr hGrouped, Option.map_some, Option.bind_some]
    exact isSome_ofBinary64?_iff.mpr hBelow

theorem documented_or_scientific_of_number (hRead : Binary64.read? (String.ofList cs) = some x) :
    Documented cs ∨ Scientific cs ↔ Below (x.mul (.ofNat 1000000000)) := by
  constructor
  · rintro ((⟨-, hSame, hBelow⟩ | ⟨hSome, hGrouped, -⟩) | ⟨-, -, -, -, hSame, hBelow⟩)
    · cases hRead.symm.trans hSame
      exact hBelow
    · exact nomatch hRead.symm.trans (hGrouped.read?_eq_none hSome).2
    · cases hRead.symm.trans hSame
      exact hBelow
  · intro hBelow
    obtain ⟨sign, hSign, mantissa, exponent, rfl, hDecimal, hExponent⟩ :=
      Binary64.exists_of_read? hRead (Binary64.isFinite_of_mul hBelow.1)
    by_cases hPlain : sign = [] ∧ exponent = []
    · obtain ⟨rfl, rfl⟩ := hPlain
      rw [List.nil_append, List.append_nil] at hRead ⊢
      exact .inl (.seconds hDecimal hRead hBelow)
    · exact .inr (.mk hSign hDecimal hExponent (not_and_or.mp hPlain) hRead hBelow)

theorem documented_or_scientific_of_groups (hRead : Binary64.read? (String.ofList cs) = none) :
    Documented cs ∨ Scientific cs ↔ ∃ gs, gs ≠ [] ∧ Grouped cs gs ∧ Below (total gs) := by
  constructor
  · rintro ((⟨-, hSome, -⟩ | ⟨hSome, hGrouped, hBelow⟩) | ⟨-, -, -, -, hSome, -⟩)
    · exact nomatch hRead.symm.trans hSome
    · exact ⟨_, hSome, hGrouped, hBelow⟩
    · exact nomatch hRead.symm.trans hSome
  · rintro ⟨gs, hSome, hGrouped, hBelow⟩
    exact .inl (.groups hSome hGrouped hBelow)

theorem isSome_read?_iff (s : String) :
    (read? s).isSome ↔ Documented (prepared s) ∨ Scientific (prepared s) := by
  cases hRead : Binary64.read? (String.ofList (prepared s)) with
  | none => rw [isSome_read?_of_groups hRead, documented_or_scientific_of_groups hRead]
  | some x => rw [isSome_read?_of_number hRead, documented_or_scientific_of_number hRead]

/-- A sign or an exponent is not part of a decimal number, and a number is not a group. -/
theorem not_documented {sign mantissa exponent : List Char} (hSign : sign ∈ signs)
    (hMantissa : IsDecimal mantissa) (hExponent : exponent = [] ∨ IsExponent exponent)
    (hSome : sign ≠ [] ∨ exponent ≠ []) : ¬Documented (sign ++ (mantissa ++ exponent)) := by
  rintro (⟨hDecimal, -⟩ | ⟨hGroups, hGrouped, -⟩)
  · have hOnly (c : Char) (hc : c ∈ sign ++ (mantissa ++ exponent)) (hDigit : isDigit c = false)
        (hPoint : c ≠ '.') : False := (InNumber.ne (hDecimal.chars c hc) hDigit hPoint) rfl
    rcases hSome with hSome | hSome
    · simp only [signs, List.mem_cons, List.not_mem_nil, or_false] at hSign
      rcases hSign with rfl | rfl | rfl
      · exact hSome rfl
      · exact hOnly '+' (by simp) (by decide) (by decide)
      · exact hOnly '-' (by simp) (by decide) (by decide)
    · obtain ⟨rfl | rfl⟩ := hExponent.resolve_left hSome
      · exact hOnly 'e' (by simp) (by decide) (by decide)
      · exact hOnly 'E' (by simp) (by decide) (by decide)
  · have hNumber := Binary64.isSome_read?_of_sign hSign hMantissa hExponent
    rw [(hGrouped.read?_eq_none hGroups).2] at hNumber
    cases hNumber

theorem Scientific.not_documented (h : Scientific cs) : ¬Documented cs := by
  obtain ⟨hSign, hMantissa, hExponent, hSome, -⟩ := h
  exact Duration.not_documented hSign hMantissa hExponent hSome

end Whole

end Duration

namespace Value

open Duration
open Numeral (IsDecimal IsExponent signs)

theorem readDuration_grammar (s : String) :
    ((∃ d, readDuration s = .ok d) ↔ Documented (prepared s) ∨ Scientific (prepared s)) ∧
    (((∃ d, readDuration s = .ok d) ↔ Documented (prepared s)) ↔ ¬Scientific (prepared s)) ∧
    ((∃ d, readDuration s = .ok d) ∨ readDuration s = .error (.duration s)) ∧
    (∀ cs, readGroups cs = if cs = [] then some []
      else (nextGroup? cs).bind fun next => (readGroups next.2).map (next.1 :: ·)) ∧
    ∀ cs g rest, nextGroup? cs = some (g, rest) → rest.length < cs.length := by
  have hAccepts : (∃ d, readDuration s = .ok d) ↔
      Documented (prepared s) ∨ Scientific (prepared s) := by
    rw [← isSome_read?_iff, readDuration]
    cases Duration.read? s <;> simp
  refine ⟨hAccepts, ?_, ?_, readGroups_eq, fun _ _ _ => length_lt_of_nextGroup?⟩
  · rw [hAccepts, or_iff_left_iff_imp]
    exact ⟨fun hDocumented hScientific => hScientific.not_documented (hDocumented hScientific),
      fun hNot hScientific => absurd hScientific hNot⟩
  · rw [readDuration]
    cases Duration.read? s with
    | none => exact .inr rfl
    | some d => exact .inl ⟨d, rfl⟩

/-- A number of seconds may have a sign or an exponent, which are not part of a decimal number. -/
theorem readDuration_of_sign_or_exponent :
    ((∃ d, readDuration "-5" = .ok d) ∧ ¬Documented (prepared "-5")) ∧
    (∃ d, readDuration "1e3" = .ok d) ∧ ¬Documented (prepared "1e3") := by
  have hDigit {c : Char} (h : isDigit c = true) : IsDecimal [c] :=
    Numeral.isDecimal_whole (List.cons_ne_nil c []) (List.forall_mem_singleton.mpr h)
  have hCube : IsExponent ['e', '3'] :=
    .mk (.inl rfl) (show [] ∈ signs by decide) (by decide) (List.forall_mem_singleton.mpr rfl)
  have hMinusText : prepared "-5" = ['-'] ++ (['5'] ++ []) := by decide +kernel
  have hCubeText : prepared "1e3" = [] ++ (['1'] ++ ['e', '3']) := by decide +kernel
  refine ⟨⟨⟨⟨-5000000000, by decide⟩, by decide +kernel⟩, ?_⟩,
    ⟨⟨1000000000000, by decide⟩, by decide +kernel⟩, ?_⟩
  · rw [hMinusText]
    exact not_documented (by decide) (hDigit rfl) (.inl rfl) (.inl (by decide))
  · rw [hCubeText]
    exact not_documented (by decide) (hDigit rfl) (.inr hCube) (.inr (by decide))

end Value

end BotScript
