import BotScript.Text.LowerCase
import Mathlib.Data.List.Infix
import Mathlib.Data.List.TakeWhile

/-! The lower case of a part of a text.  What stands around a part shows in its lower case only at
capital sigmas, whose form hangs on the nearest characters that count for case.  A part whose sigmas
find these inside it has the same lower case wherever it stands; of any other the lower case changes
next to some letter. -/

namespace BotScript.LowerCase

/-- The lower case of a capital sigma after `before`, which is given backwards, and in front of
`after`. -/
def sigmaForm (before after : List Char) : Char :=
  if meetsCased before && !meetsCased after then 'ς' else 'σ'

/-- The lower case of a part of a text, after `before`, which is given backwards, and in front of
`after`. -/
def ofCharsBetween (before after : List Char) : List Char → List Char
  | [] => []
  | c :: rest =>
    (if c = 'Σ' then [sigmaForm before (rest ++ after)] else ofChar c) ++
      ofCharsBetween (c :: before) after rest

/-- The form of a sigma between these characters may be another if there are more of them: none in
front counts for case and no cased one follows, or a cased one is in front and none behind counts.
-/
def IsOpen (before after : List Char) : Prop :=
  ((∀ c ∈ before, isCaseIgnorable c = true) ∧ meetsCased after = false) ∨
    (meetsCased before = true ∧ ∀ c ∈ after, isCaseIgnorable c = true)

/-- Some capital sigma of a part may have another form in a longer text. -/
def HasOpenSigma (cs : List Char) : Prop :=
  ∃ before after, cs = before ++ 'Σ' :: after ∧ IsOpen before.reverse after

variable {before before' after after' xs ys cs : List Char}

/-! ### The form of a sigma -/

theorem meetsCased_of_ignorable (h : ∀ c ∈ xs, isCaseIgnorable c = true) :
    meetsCased xs = false := by
  have hNone : xs.dropWhile isCaseIgnorable = [] := List.dropWhile_eq_nil_iff.mpr h
  rw [meetsCased, hNone]

theorem meetsCased_append_of_ignorable (h : ∀ c ∈ xs, isCaseIgnorable c = true)
    (ys : List Char) : meetsCased (xs ++ ys) = meetsCased ys := by
  rw [meetsCased, List.dropWhile_append_of_pos h, ← meetsCased]

/-- What stands further away than a character that counts for case does not matter. -/
theorem meetsCased_append_of_counting (h : ¬∀ c ∈ xs, isCaseIgnorable c = true)
    (ys : List Char) : meetsCased (xs ++ ys) = meetsCased xs := by
  induction xs with
  | nil => exact absurd (List.forall_mem_nil _) h
  | cons c xs ih =>
    by_cases hc : isCaseIgnorable c = true
    · have hRest : ¬∀ c ∈ xs, isCaseIgnorable c = true :=
        fun hAll => h (List.forall_mem_cons.mpr ⟨hc, hAll⟩)
      simpa [meetsCased, hc] using ih hRest
    · simp [meetsCased, hc]

theorem meetsCased_append_of_cased (h : meetsCased xs = true) (ys : List Char) :
    meetsCased (xs ++ ys) = true := by
  rw [meetsCased_append_of_counting _ ys, h]
  intro hIgnorable
  exact absurd (meetsCased_of_ignorable hIgnorable) (by simp [h])

theorem sigmaForm_eq_final_iff :
    sigmaForm before after = 'ς' ↔ meetsCased before = true ∧ meetsCased after = false := by
  simp [sigmaForm]

theorem sigmaForm_eq_small_iff :
    sigmaForm before after = 'σ' ↔ ¬(meetsCased before = true ∧ meetsCased after = false) := by
  simp [sigmaForm]

theorem sigmaForm_of_not_isOpen (h : ¬IsOpen before after) (xs ys : List Char) :
    sigmaForm (before ++ xs) (after ++ ys) = sigmaForm before after := by
  obtain ⟨hBefore, hAfter⟩ := not_or.mp h
  by_cases hIgnorable : ∀ c ∈ before, isCaseIgnorable c = true
  · -- A cased character follows, so that the sigma is final in neither text.
    have hCased : meetsCased after = true := by
      simpa using fun hNone => hBefore ⟨hIgnorable, hNone⟩
    simp [sigmaForm, hCased, meetsCased_append_of_cased hCased]
  · rw [sigmaForm, sigmaForm, meetsCased_append_of_counting hIgnorable]
    rcases hCased : meetsCased before with _ | _
    · rfl
    · rw [meetsCased_append_of_counting fun hAll => hAfter ⟨hCased, hAll⟩]

/-- With more in front a sigma may become final, and not the other way. -/
theorem sigmaForm_small_of_append (xs : List Char) (h : sigmaForm (before ++ xs) after = 'σ') :
    sigmaForm before after = 'σ' := by
  rw [sigmaForm_eq_small_iff] at h ⊢
  exact fun ⟨hCased, hNone⟩ => h ⟨meetsCased_append_of_cased hCased xs, hNone⟩

/-- With more behind a sigma may cease to be final, and not the other way. -/
theorem sigmaForm_final_of_append (ys : List Char) (h : sigmaForm before (after ++ ys) = 'ς') :
    sigmaForm before after = 'ς' := by
  rw [sigmaForm_eq_final_iff] at h ⊢
  refine ⟨h.1, Bool.eq_false_iff.mpr fun hCased => ?_⟩
  exact absurd (meetsCased_append_of_cased hCased ys) (by simp [h.2])

/-! ### The parts of a text -/

theorem ofCharsBetween_append (before after xs ys : List Char) :
    ofCharsBetween before after (xs ++ ys) =
      ofCharsBetween before (ys ++ after) xs ++ ofCharsBetween (xs.reverse ++ before) after ys := by
  induction xs generalizing before with
  | nil => rfl
  | cons c xs ih => simp [ofCharsBetween, ih]

theorem ofCharsAfter_eq (before cs : List Char) :
    ofCharsAfter before cs = ofCharsBetween before [] cs := by
  induction cs generalizing before with
  | nil => rfl
  | cons c rest ih => simp [ofCharsAfter, ofCharsBetween, sigmaForm, ih]

/-- The lower case of a part stands in that of the text. -/
theorem ofCharsBetween_infix (before cs after : List Char) :
    ofCharsBetween before.reverse after cs <:+: ofCharsAfter [] (before ++ cs ++ after) := by
  refine ⟨ofCharsBetween [] (cs ++ after) before,
    ofCharsBetween (cs.reverse ++ before.reverse) [] after, ?_⟩
  simp only [ofCharsAfter_eq, List.append_assoc, ofCharsBetween_append, List.append_nil]

theorem ofCharsBetween_of_not_open {done rest : List Char} (h : ¬HasOpenSigma (done ++ rest))
    (xs ys : List Char) :
    ofCharsBetween (done.reverse ++ xs) ys rest = ofCharsBetween done.reverse [] rest := by
  induction rest generalizing done with
  | nil => rfl
  | cons c rest ih =>
    have hFurther : ¬HasOpenSigma ((done ++ [c]) ++ rest) := by rwa [List.append_assoc]
    have hRest := ih hFurther
    rw [List.reverse_append, List.reverse_singleton] at hRest
    simp only [ofCharsBetween]
    refine congrArg₂ (· ++ ·) ?_ hRest
    by_cases hSigma : c = 'Σ'
    · have hClosed : ¬IsOpen done.reverse rest :=
        fun hOpen => h ⟨done, rest, by rw [hSigma], hOpen⟩
      rw [if_pos hSigma, if_pos hSigma, sigmaForm_of_not_isOpen hClosed, List.append_nil]
    · rw [if_neg hSigma, if_neg hSigma]

/-- A part without open sigmas has its lower case wherever it stands. -/
theorem ofCharsBetween_eq (h : ¬HasOpenSigma cs) (before after : List Char) :
    ofCharsBetween before after cs = ofCharsAfter [] cs := by
  rw [ofCharsAfter_eq]
  exact @ofCharsBetween_of_not_open [] cs h before after

/-! ### Sigmas that change -/

section Counts

variable {form : Char}

/-- A sigma that has a form with `before'` further in front and `after'` further behind has it with
`before` and `after` as well. -/
def KeepsForm (form : Char) (before after before' after' : List Char) : Prop :=
  ∀ p s, sigmaForm (p ++ before') (s ++ after') = form → sigmaForm (p ++ before) (s ++ after) = form

theorem KeepsForm.inside (h : KeepsForm form before after before' after') (xs ys : List Char) :
    KeepsForm form (xs ++ before) (ys ++ after) (xs ++ before') (ys ++ after') := by
  intro p s
  simpa using h (p ++ xs) (s ++ ys)

/-- Where no sigma takes on a form that it had not, the form does not become more frequent. -/
theorem KeepsForm.count_le (h : KeepsForm form before after before' after') (cs : List Char) :
    (ofCharsBetween before' after' cs).count form ≤
      (ofCharsBetween before after cs).count form := by
  induction cs generalizing before before' with
  | nil => exact le_refl _
  | cons c rest ih =>
    have hRest := ih (h.inside [c] [])
    simp only [ofCharsBetween, List.count_append]
    refine Nat.add_le_add ?_ hRest
    by_cases hSigma : c = 'Σ'
    · have hHead : sigmaForm before' (rest ++ after') = form →
          sigmaForm before (rest ++ after) = form := h [] rest
      simp only [if_pos hSigma, List.count_singleton, beq_iff_eq]
      split
      · rw [if_pos (hHead ‹_›)]
      · exact Nat.zero_le _
    · rw [if_neg hSigma, if_neg hSigma]

/-- Where besides a sigma loses the form, it becomes less frequent. -/
theorem KeepsForm.count_lt (h : KeepsForm form before after before' after')
    (hOther : sigmaForm (xs.reverse ++ before') (ys ++ after') ≠ form)
    (hForm : sigmaForm (xs.reverse ++ before) (ys ++ after) = form) :
    (ofCharsBetween before' after' (xs ++ 'Σ' :: ys)).count form <
      (ofCharsBetween before after (xs ++ 'Σ' :: ys)).count form := by
  have hFront := (h.inside [] ('Σ' :: ys)).count_le xs
  have hBack := (h.inside ('Σ' :: xs.reverse) []).count_le ys
  have hMiddle : [sigmaForm (xs.reverse ++ before') (ys ++ after')].count form <
      [sigmaForm (xs.reverse ++ before) (ys ++ after)].count form := by
    rw [hForm, List.count_singleton_self, List.count_eq_zero_of_not_mem]
    · exact Nat.one_pos
    · rw [List.mem_singleton]
      exact Ne.symm hOther
  rw [List.nil_append, List.nil_append] at hFront
  rw [List.cons_append, List.cons_append, List.nil_append, List.nil_append] at hBack
  simp only [ofCharsBetween_append, ofCharsBetween, if_true, List.count_append]
  omega

end Counts

/-- The lower case of a part with an open sigma is not in that of the part next to a letter. -/
theorem not_infix_of_open (h : HasOpenSigma cs) :
    ∃ before after, ¬ofCharsAfter [] cs <:+: ofCharsAfter [] (before ++ cs ++ after) := by
  obtain ⟨xs, ys, rfl, ⟨hIgnorable, hNone⟩ | ⟨hCased, hIgnorable⟩⟩ := h
  · refine ⟨['a'], [], fun hInfix => ?_⟩
    -- After a letter the sigma is final.
    have hKeeps : KeepsForm 'σ' [] [] ['a'] [] :=
      fun p s hForm => sigmaForm_small_of_append ['a'] (by simpa using hForm)
    have hFinal : sigmaForm (xs.reverse ++ ['a']) (ys ++ []) ≠ 'σ' := by
      rw [Ne, sigmaForm_eq_small_iff, not_not, List.append_nil,
        meetsCased_append_of_ignorable (by simpa using hIgnorable)]
      exact ⟨rfl, hNone⟩
    have hSmall : sigmaForm (xs.reverse ++ []) (ys ++ []) = 'σ' := by
      rw [sigmaForm_eq_small_iff, List.append_nil, meetsCased_of_ignorable hIgnorable]
      exact fun hFinal => nomatch hFinal.1
    have hLess := hKeeps.count_lt hFinal hSmall
    have hCount := hInfix.count_le 'σ'
    have hText : ofCharsAfter [] (['a'] ++ (xs ++ 'Σ' :: ys) ++ []) =
        'a' :: ofCharsBetween ['a'] [] (xs ++ 'Σ' :: ys) := by
      simp [ofCharsAfter_eq, ofCharsBetween, ofChar]
    rw [hText, ofCharsAfter_eq, List.count_cons_of_ne (by decide)] at hCount
    omega
  · refine ⟨[], ['a'], fun hInfix => ?_⟩
    -- In front of a letter the sigma is not final.
    have hKeeps : KeepsForm 'ς' [] [] [] ['a'] :=
      fun p s hForm => by simpa using sigmaForm_final_of_append ['a'] hForm
    have hSmall : sigmaForm (xs.reverse ++ []) (ys ++ ['a']) ≠ 'ς' := by
      rw [Ne, sigmaForm_eq_final_iff, meetsCased_append_of_ignorable hIgnorable]
      exact fun hFinal => nomatch hFinal.2
    have hFinal : sigmaForm (xs.reverse ++ []) (ys ++ []) = 'ς' := by
      rw [sigmaForm_eq_final_iff, List.append_nil, List.append_nil]
      exact ⟨hCased, meetsCased_of_ignorable hIgnorable⟩
    have hLess := hKeeps.count_lt hSmall hFinal
    have hCount := hInfix.count_le 'ς'
    have hText : ofCharsAfter [] ([] ++ (xs ++ 'Σ' :: ys) ++ ['a']) =
        ofCharsBetween [] ['a'] (xs ++ 'Σ' :: ys) ++ ['a'] := by
      rw [ofCharsAfter_eq, List.nil_append, ofCharsBetween_append _ _ (xs ++ 'Σ' :: ys)]
      simp [ofCharsBetween, ofChar]
    have hLetter : ['a'].count 'ς' = 0 := by decide
    rw [hText, ofCharsAfter_eq, List.count_append, hLetter] at hCount
    omega

end BotScript.LowerCase
