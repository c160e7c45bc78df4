import BotScript.Coercion
import BotScript.Proofs.Text.SigmaForms

/-! Membership and membership up to case.  What is an element of a list is one up to case.  A part
of a text is a part up to case unless its lower case hangs on what stands around it there, which it
does only if it has an open sigma. -/

namespace BotScript

theorem occursIn_iff {part cs : List Char} : occursIn part cs = true ↔ part <:+: cs := by
  induction cs with
  | nil => simp [occursIn]
  | cons c cs ih =>
    rw [occursIn, Bool.or_eq_true, List.isPrefixOf_iff_prefix, ih, List.infix_cons_iff]

namespace Value

variable {haystack needle item : Value} {h n : String} {items : List Value}

theorem asText?_eq_some_iff {v : Value} {s : String} :
    v.asText? = some s ↔ v.dereference = some (.text s) := by
  rw [asText?]
  cases v.dereference with
  | none => simp
  | some u => cases u <;> simp

/-! ### Texts and lists -/

theorem isIn_text (hHaystack : haystack.asText? = some h) (hNeedle : needle.asText? = some n) :
    haystack.isIn needle = true ↔ n.toList <:+: h.toList := by
  rw [asText?_eq_some_iff] at hHaystack hNeedle
  rw [isIn, hHaystack, hNeedle]
  exact occursIn_iff

theorem isInFolded_text (hHaystack : haystack.asText? = some h)
    (hNeedle : needle.asText? = some n) :
    haystack.isInFolded needle = true ↔ (lowerCase n).toList <:+: (lowerCase h).toList := by
  rw [asText?_eq_some_iff] at hHaystack
  rw [isInFolded, hNeedle, hHaystack]
  exact occursIn_iff

/-- The part of a text has its own lower case there. -/
theorem isInFolded_of_between {before after : List Char}
    (hHaystack : haystack.asText? = some (String.ofList (before ++ n.toList ++ after)))
    (hNeedle : needle.asText? = some n)
    (hBetween : LowerCase.ofCharsBetween before.reverse after n.toList = (lowerCase n).toList) :
    haystack.isInFolded needle = true := by
  rw [isInFolded_text hHaystack hNeedle, ← hBetween]
  simpa [lowerCase] using LowerCase.ofCharsBetween_infix before n.toList after

theorem asText?_of_equalsOption (h : equalsOption item.dereference (some (.text n)) = true) :
    item.asText? = some n := by
  rw [asText?_eq_some_iff]
  cases hItem : item.dereference with
  | none => simp [hItem, equalsOption] at h
  | some v => cases v <;> simp_all [equalsOption, equals]

/-- An element of a list is one up to case. -/
theorem isInFolded_of_isIn_list (hHaystack : haystack.dereference = some (.list items))
    (hNeedle : needle.asText? = some n) (hIn : haystack.isIn needle = true) :
    haystack.isInFolded needle = true := by
  have hInside := asText?_eq_some_iff.mp hNeedle
  rw [isIn, hHaystack, hInside] at hIn
  obtain ⟨item, hItem, hEqual⟩ := List.any_eq_true.mp hIn
  rw [isInFolded, hNeedle, hHaystack]
  refine List.any_eq_true.mpr ⟨item, hItem, ?_⟩
  simp [asText?_of_equalsOption hEqual]

/-- What holds a text is a text or a list. -/
theorem text_or_list_of_isIn (hNeedle : needle.asText? = some n)
    (hIn : haystack.isIn needle = true) :
    (∃ h, haystack.asText? = some h) ∨ ∃ items, haystack.dereference = some (.list items) := by
  simp only [asText?_eq_some_iff] at hNeedle ⊢
  cases hHaystack : haystack.dereference with
  | none => simp [isIn, hHaystack] at hIn
  | some v => cases v <;> simp_all [isIn]

/-- Up to case a text is found wherever it is found by its very letters, in lists and in texts, if
and only if it has no open sigma.  In lists it is in any case, and in a text wherever its lower case
there is its own. -/
theorem isIn_widens_iff (hNeedle : needle.asText? = some n) :
    ((∀ haystack : Value, haystack.isIn needle = true → haystack.isInFolded needle = true) ↔
      ¬LowerCase.HasOpenSigma n.toList) ∧
    (∀ (haystack : Value) (items : List Value), haystack.dereference = some (.list items) →
      haystack.isIn needle = true → haystack.isInFolded needle = true) ∧
    ∀ (haystack : Value) (before after : List Char),
      haystack.asText? = some (String.ofList (before ++ n.toList ++ after)) →
      haystack.isIn needle = true ∧
        (LowerCase.ofCharsBetween before.reverse after n.toList = (lowerCase n).toList →
          haystack.isInFolded needle = true) := by
  refine ⟨⟨fun hWidens hOpen => ?_, fun hClosed haystack hIn => ?_⟩,
    fun haystack items hHaystack hIn => isInFolded_of_isIn_list hHaystack hNeedle hIn,
    fun haystack before after hHaystack => ⟨?_, isInFolded_of_between hHaystack hNeedle⟩⟩
  · obtain ⟨before, after, hAbsent⟩ := LowerCase.not_infix_of_open hOpen
    let whole : Value := .text (String.ofList (before ++ n.toList ++ after))
    have hFound : whole.isIn needle = true := by
      rw [isIn_text rfl hNeedle, String.toList_ofList]
      exact ⟨before, after, rfl⟩
    have hFolded := hWidens whole hFound
    rw [isInFolded_text rfl hNeedle] at hFolded
    exact hAbsent (by simpa [lowerCase] using hFolded)
  · obtain ⟨h, hHaystack⟩ | ⟨items, hHaystack⟩ := text_or_list_of_isIn hNeedle hIn
    · obtain ⟨before, after, hSplit⟩ := (isIn_text hHaystack hNeedle).mp hIn
      have hText : haystack.asText? = some (String.ofList (before ++ n.toList ++ after)) := by
        rw [hHaystack, hSplit, String.ofList_toList]
      refine isInFolded_of_between hText hNeedle ?_
      rw [LowerCase.ofCharsBetween_eq hClosed, lowerCase, String.toList_ofList]
    · exact isInFolded_of_isIn_list hHaystack hNeedle hIn
  · rw [isIn_text hHaystack hNeedle, String.toList_ofList]
    exact ⟨before, after, rfl⟩

/-- A sigma between letters of the part itself is found wherever the part is. -/
theorem isIn_widens_inside_word :
    (ref (some (text "AΣB"))).asText? = some "AΣB" ∧
      ∀ haystack : Value, haystack.isIn (ref (some (text "AΣB"))) = true →
        haystack.isInFolded (ref (some (text "AΣB"))) = true := by
  have hNeedle : (ref (some (text "AΣB"))).asText? = some "AΣB" := rfl
  have hClosed : ¬LowerCase.HasOpenSigma "AΣB".toList := by
    rintro ⟨before, after, hSplit, hOpen⟩
    obtain ⟨rfl, rfl⟩ : ['A'] = before ∧ ['B'] = after := by
      rcases before with _ | ⟨a, _ | ⟨b, _ | ⟨c, rest⟩⟩⟩ <;> simp at hSplit
      exact ⟨congrArg (fun c => [c]) hSplit.1, hSplit.2⟩
    exact hOpen.elim (fun h => absurd h.2 (by decide)) fun h => absurd (h.2 'B') (by decide)
  exact ⟨hNeedle, (isIn_widens_iff hNeedle).1.mpr hClosed⟩

/-- A sigma that ends the part is final there, and is not where the word goes on. -/
theorem final_sigma_not_found :
    (text "AΣB").isIn (text "AΣ") = true ∧ (text "AΣB").isInFolded (text "AΣ") = false := by
  decide

end Value

end BotScript
