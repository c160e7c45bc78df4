import BotScript.Decimal.Style
import BotScript.Proofs.Text.Digits

/-! Decimal numerals as rational numbers.  The text of a decimal, in either spelling, is a numeral
for just that decimal. -/

namespace BotScript

namespace Numeral

/-- The number that a numeral denotes. -/
def value (n : Numeral) : ℚ := n.significand * (10 : ℚ) ^ n.scale

/-- What may follow the digits of a numeral: nothing or an exponent. -/
def EndsNumber (tail : List Char) : Prop := ∀ c ∈ tail.head?, c = 'e' ∨ c = 'E'

theorem endsNumber_nil : EndsNumber [] := by simp [EndsNumber]

theorem EndsNumber.stops {tail : List Char} (h : EndsNumber tail) : Stops isDigit tail := by
  intro c hc
  rcases h c hc with rfl | rfl <;> rfl

variable {whole fraction tail : List Char}

theorem read_whole (hWhole : whole ≠ []) (hDigits : ∀ c ∈ whole, isDigit c)
    (hTail : EndsNumber tail) :
    read (whole ++ tail) = (readExponent tail).map fun e => ⟨whole, [], e⟩ := by
  rw [read, takeWhile_append_of_stops hDigits hTail.stops,
    dropWhile_append_of_stops hDigits hTail.stops]
  have hNoPoint : ∀ rest, tail ≠ '.' :: rest := by
    rintro rest rfl
    exact absurd (hTail '.' rfl) (by decide)
  split
  rename_i heq
  split at heq
  · exact absurd rfl (hNoPoint _)
  · cases heq
    simp [hWhole]

theorem read_point (hSome : whole ≠ [] ∨ fraction ≠ []) (hDigits : ∀ c ∈ whole, isDigit c)
    (hPlaces : ∀ c ∈ fraction, isDigit c) (hTail : EndsNumber tail) :
    read (whole ++ '.' :: (fraction ++ tail)) =
      (readExponent tail).map fun e => ⟨whole, fraction, e⟩ := by
  have hPoint : Stops isDigit ('.' :: (fraction ++ tail)) := stops_cons (by decide)
  rw [read, takeWhile_append_of_stops hDigits hPoint, dropWhile_append_of_stops hDigits hPoint]
  simp only [takeWhile_append_of_stops hPlaces hTail.stops,
    dropWhile_append_of_stops hPlaces hTail.stops]
  rw [if_neg (by simpa [imp_iff_not_or] using hSome)]

/-- The texts of signs, and none. -/
def signs : List (List Char) := [[], ['+'], ['-']]

theorem readExponent_sign {e : Char} {sign ds : List Char} (he : e = 'e' ∨ e = 'E')
    (hSign : sign ∈ signs) (hNonempty : ds ≠ []) (hDigits : ∀ c ∈ ds, isDigit c) :
    readExponent (e :: (sign ++ ds)) =
      some (if sign = ['-'] then -(natOfDigits ds : Int) else natOfDigits ds) := by
  simp only [signs, List.mem_cons, List.not_mem_nil, or_false] at hSign
  rcases hSign with rfl | rfl | rfl
  · cases ds with
    | nil => exact absurd rfl hNonempty
    | cons c rest =>
      have hDigit : isDigit c = true := hDigits c List.mem_cons_self
      have hMinus : c ≠ '-' := by
        rintro rfl
        exact absurd hDigit (by decide)
      have hPlus : c ≠ '+' := by
        rintro rfl
        exact absurd hDigit (by decide)
      simpa [readExponent, he, hMinus, hPlus, hDigit] using
        fun c hc => hDigits c (List.mem_cons_of_mem _ hc)
  · simp [readExponent, he, hNonempty, List.all_eq_true.mpr hDigits]
  · simp [readExponent, he, hNonempty, List.all_eq_true.mpr hDigits]

/-! ### Which texts are numerals -/

/-- A decimal number: digits with at most one point, and at least one digit. -/
structure IsDecimal (cs : List Char) : Prop where
  chars : ∀ c ∈ cs, isDigit c ∨ c = '.'
  points : cs.count '.' ≤ 1
  digit : ∃ c ∈ cs, isDigit c

/-- An exponent: the letter e in either case, a sign or none, and digits. -/
inductive IsExponent : List Char → Prop
  | mk {e sign digits} : e = 'e' ∨ e = 'E' → sign ∈ signs → digits ≠ [] →
    (∀ c ∈ digits, isDigit c) → IsExponent (e :: (sign ++ digits))

theorem count_point_of_digits {ds : List Char} (h : ∀ c ∈ ds, isDigit c) : ds.count '.' = 0 :=
  List.count_eq_zero.mpr fun hPoint => absurd (h '.' hPoint) (by decide)

theorem isDecimal_whole (hWhole : whole ≠ []) (hDigits : ∀ c ∈ whole, isDigit c) :
    IsDecimal whole where
  chars c hc := .inl (hDigits c hc)
  points := by rw [count_point_of_digits hDigits]; exact Nat.zero_le 1
  digit := by
    obtain ⟨c, rest, rfl⟩ := List.exists_cons_of_ne_nil hWhole
    exact ⟨c, List.mem_cons_self, hDigits c List.mem_cons_self⟩

theorem isDecimal_point (hSome : whole ≠ [] ∨ fraction ≠ []) (hDigits : ∀ c ∈ whole, isDigit c)
    (hPlaces : ∀ c ∈ fraction, isDigit c) : IsDecimal (whole ++ '.' :: fraction) where
  chars c hc := by
    simp only [List.mem_append, List.mem_cons] at hc
    rcases hc with hc | rfl | hc
    · exact .inl (hDigits c hc)
    · exact .inr rfl
    · exact .inl (hPlaces c hc)
  points := by
    simp [List.count_append, count_point_of_digits hDigits, count_point_of_digits hPlaces]
  digit := by
    rcases hSome with hSome | hSome
    · obtain ⟨c, rest, rfl⟩ := List.exists_cons_of_ne_nil hSome
      exact ⟨c, by simp, hDigits c List.mem_cons_self⟩
    · obtain ⟨c, rest, rfl⟩ := List.exists_cons_of_ne_nil hSome
      exact ⟨c, by simp, hPlaces c List.mem_cons_self⟩

/-- A decimal number has a point somewhere or none. -/
theorem IsDecimal.cases {cs : List Char} (h : IsDecimal cs) :
    (cs ≠ [] ∧ ∀ c ∈ cs, isDigit c) ∨
      ∃ whole fraction, cs = whole ++ '.' :: fraction ∧ (whole ≠ [] ∨ fraction ≠ []) ∧
        (∀ c ∈ whole, isDigit c) ∧ ∀ c ∈ fraction, isDigit c := by
  obtain ⟨hChars, hPoints, hDigit⟩ := h
  by_cases hPoint : '.' ∈ cs
  · obtain ⟨whole, fraction, rfl⟩ := List.append_of_mem hPoint
    have hNone : whole.count '.' = 0 ∧ fraction.count '.' = 0 := by
      simp only [List.count_append, List.count_cons_self] at hPoints
      omega
    have hOnly (ds : List Char) (hds : ∀ c ∈ ds, c ∈ whole ++ '.' :: fraction)
        (hNone : ds.count '.' = 0) : ∀ c ∈ ds, isDigit c := by
      intro c hc
      refine (hChars c (hds c hc)).resolve_right ?_
      rintro rfl
      exact List.count_eq_zero.mp hNone hc
    refine .inr ⟨whole, fraction, rfl, ?_, hOnly whole (by simp +contextual) hNone.1,
      hOnly fraction (by simp +contextual) hNone.2⟩
    by_contra hEmpty
    simp only [ne_eq, not_or, not_not] at hEmpty
    obtain ⟨rfl, rfl⟩ := hEmpty
    obtain ⟨c, hc, hDigit⟩ := hDigit
    rw [List.nil_append, List.mem_singleton] at hc
    exact absurd (hc ▸ hDigit) (by decide)
  · obtain ⟨c, hc, -⟩ := hDigit
    refine .inl ⟨List.ne_nil_of_mem hc, fun c hc => (hChars c hc).resolve_right ?_⟩
    rintro rfl
    exact hPoint hc

theorem IsExponent.endsNumber {tail : List Char} (h : IsExponent tail) : EndsNumber tail := by
  cases h with
  | mk he => simpa [EndsNumber] using he

theorem readExponent_isSome_iff : (readExponent tail).isSome ↔ tail = [] ∨ IsExponent tail := by
  constructor
  · intro h
    have hOf {ds : List Char} {k : Int} (h : (if ds.isEmpty = true ∨ (!ds.all isDigit) = true
        then none else some k).isSome) : ds ≠ [] ∧ ∀ c ∈ ds, isDigit c := by
      cases ds with
      | nil => exact nomatch h
      | cons => simpa using h
    cases tail with
    | nil => exact .inl rfl
    | cons e rest =>
      simp only [readExponent, Bool.or_eq_true, decide_eq_true_eq] at h
      split at h
      · rename_i he
        right
        -- A minus sign, a plus sign or none.
        split at h
        · exact .mk he (show ['-'] ∈ signs by decide) (hOf h).1 (hOf h).2
        · exact .mk he (show ['+'] ∈ signs by decide) (hOf h).1 (hOf h).2
        · exact .mk he (show [] ∈ signs by decide) (hOf h).1 (hOf h).2
      · exact nomatch h
  · rintro (rfl | @⟨e, sign, digits, he, hSign, hNonempty, hDigits⟩)
    · rfl
    · rw [readExponent_sign he hSign hNonempty hDigits]
      rfl

theorem read_isSome_iff {cs : List Char} :
    (read cs).isSome ↔
      ∃ mantissa exponent, cs = mantissa ++ exponent ∧ IsDecimal mantissa ∧
        (exponent = [] ∨ IsExponent exponent) := by
  constructor
  · intro h
    obtain ⟨whole, rest, rfl, hWhole, hRest⟩ := exists_run isDigit cs
    simp only [read, takeWhile_append_of_stops hWhole hRest,
      dropWhile_append_of_stops hWhole hRest] at h
    split at h
    · rename_i rest
      obtain ⟨fraction, tail, rfl, hFraction, hTail⟩ := exists_run isDigit rest
      simp only [takeWhile_append_of_stops hFraction hTail,
        dropWhile_append_of_stops hFraction hTail] at h
      split at h
      · exact nomatch h
      · rename_i hSome
        rw [Option.isSome_map, readExponent_isSome_iff] at h
        have hSome : whole ≠ [] ∨ fraction ≠ [] := by
          simpa [or_iff_not_imp_left] using hSome
        exact ⟨whole ++ '.' :: fraction, tail, by simp, isDecimal_point hSome hWhole hFraction, h⟩
    · split at h
      · exact nomatch h
      · rename_i hSome
        rw [Option.isSome_map, readExponent_isSome_iff] at h
        have hSome : whole ≠ [] := by simpa using hSome
        exact ⟨whole, rest, rfl, isDecimal_whole hSome hWhole, h⟩
  · rintro ⟨mantissa, exponent, rfl, hMantissa, hExponent⟩
    have hSome : (readExponent exponent).isSome := readExponent_isSome_iff.mpr hExponent
    have hEnds : EndsNumber exponent := by
      rcases hExponent with rfl | hExponent
      · exact endsNumber_nil
      · exact hExponent.endsNumber
    rcases hMantissa.cases with
      ⟨hNonempty, hDigits⟩ | ⟨whole, fraction, rfl, hSome', hDigits, hPlaces⟩
    · rw [read_whole hNonempty hDigits hEnds, Option.isSome_map]
      exact hSome
    · rw [List.append_assoc, List.cons_append, read_point hSome' hDigits hPlaces hEnds,
        Option.isSome_map]
      exact hSome

end Numeral

namespace Decimal

/-- The number that a decimal stands for. -/
def value (d : Decimal) : ℚ := d.digits * (10 : ℚ) ^ d.exponent

/-- A text is a numeral for a number, and begins and ends with a digit. -/
structure Spells (cs : List Char) (q : ℚ) : Prop where
  read : ∃ n, Numeral.read cs = some n ∧ n.value = q
  first : ∃ c ∈ cs.head?, isDigit c
  last : ∃ c ∈ cs.getLast?, isDigit c

theorem Spells.unique {cs : List Char} {p q : ℚ} (hp : Spells cs p) (hq : Spells cs q) : p = q := by
  obtain ⟨m, hm, rfl⟩ := hp.read
  obtain ⟨n, hn, rfl⟩ := hq.read
  rw [Option.some.inj (hm.symm.trans hn)]

section Shapes

variable {whole fraction exponent : List Char} {q : ℚ}

theorem spells_whole (hWhole : whole ≠ []) (hDigits : ∀ c ∈ whole, isDigit c)
    (hq : (natOfDigits whole : ℚ) = q) : Spells whole q where
  read := by
    refine ⟨⟨whole, [], 0⟩, ?_, ?_⟩
    · simpa [Numeral.readExponent] using
        Numeral.read_whole hWhole hDigits Numeral.endsNumber_nil
    · simpa [Numeral.value, Numeral.significand, Numeral.scale] using hq
  first := by simpa using exists_head?_digit [] hWhole hDigits
  last := by simpa using exists_getLast?_digit [] hWhole hDigits

theorem spells_point (hWhole : whole ≠ []) (hDigits : ∀ c ∈ whole, isDigit c)
    (hFraction : fraction ≠ []) (hPlaces : ∀ c ∈ fraction, isDigit c)
    (hq : natOfDigits (whole ++ fraction) * (10 : ℚ) ^ (-fraction.length : Int) = q) :
    Spells (whole ++ '.' :: fraction) q where
  read := by
    refine ⟨⟨whole, fraction, 0⟩, ?_, ?_⟩
    · simpa [Numeral.readExponent] using
        Numeral.read_point (.inl hWhole) hDigits hPlaces Numeral.endsNumber_nil
    · simpa [Numeral.value, Numeral.significand, Numeral.scale] using hq
  first := exists_head?_digit _ hWhole hDigits
  last := by simpa using exists_getLast?_digit (whole ++ ['.']) hFraction hPlaces

end Shapes

/-- An integer: the digits and as many zeros as the exponent says. -/
theorem spells_integer (digits k : Nat) (pointZero : Bool) :
    Spells (Nat.toDigits 10 digits ++ List.replicate k '0' ++
      if pointZero then ['.', '0'] else []) (digits * 10 ^ k) := by
  have hDigits : ∀ c ∈ Nat.toDigits 10 digits ++ List.replicate k '0', isDigit c := by
    intro c hc
    exact (List.mem_append.mp hc).elim isDigit_of_mem_toDigits isDigit_of_mem_zeros
  have hValue : (natOfDigits (Nat.toDigits 10 digits ++ List.replicate k '0') : ℚ) =
      digits * 10 ^ k := by
    rw [natOfDigits_append]
    simp
  cases pointZero with
  | false => simpa using spells_whole (by simp) hDigits hValue
  | true =>
    refine spells_point (by simp) hDigits (by simp) (List.forall_mem_singleton.mpr rfl) ?_
    rw [natOfDigits_append, ← hValue]
    simp [natOfDigits, digitValue]

/-- A point among the digits. -/
theorem spells_inside {digits places : Nat} (hPlaces : 0 < places)
    (hLess : places < (Nat.toDigits 10 digits).length) :
    Spells ((Nat.toDigits 10 digits).take ((Nat.toDigits 10 digits).length - places) ++
        '.' :: (Nat.toDigits 10 digits).drop ((Nat.toDigits 10 digits).length - places))
      (digits * (10 : ℚ) ^ (-places : Int)) := by
  have hDigits : ∀ c ∈ Nat.toDigits 10 digits, isDigit c :=
    fun c hc => isDigit_of_mem_toDigits hc
  have hLength : ((Nat.toDigits 10 digits).drop
      ((Nat.toDigits 10 digits).length - places)).length = places := by
    rw [List.length_drop]
    omega
  refine spells_point ?_ (fun c hc => hDigits c (List.mem_of_mem_take hc)) ?_
    (fun c hc => hDigits c (List.mem_of_mem_drop hc)) ?_
  · exact List.ne_nil_of_length_pos (by rw [List.length_take]; omega)
  · exact List.ne_nil_of_length_pos (by rw [hLength]; exact hPlaces)
  · rw [List.take_append_drop, natOfDigits_toDigits, hLength]

/-- A point in front of the digits, with zeros between. -/
theorem spells_below {digits places : Nat} (hLeast : (Nat.toDigits 10 digits).length ≤ places) :
    Spells ('0' :: '.' :: (List.replicate (places - (Nat.toDigits 10 digits).length) '0' ++
        Nat.toDigits 10 digits)) (digits * (10 : ℚ) ^ (-places : Int)) := by
  change Spells (['0'] ++ '.' :: _) _
  refine spells_point (by simp) (List.forall_mem_singleton.mpr rfl) (by simp) ?_ ?_
  · intro c hc
    exact (List.mem_append.mp hc).elim isDigit_of_mem_zeros isDigit_of_mem_toDigits
  · have hLength : (List.replicate (places - (Nat.toDigits 10 digits).length) '0' ++
        Nat.toDigits 10 digits).length = places := by
      rw [List.length_append, List.length_replicate]
      omega
    have hZero : natOfDigits ['0'] = 0 := rfl
    rw [hLength, natOfDigits_append, natOfDigits_append, hZero]
    simp

theorem spells_positional (d : Decimal) (pointZero : Bool) :
    Spells (d.positional pointZero).toList d.value := by
  have hPoint : ".".toList = ['.'] := rfl
  have hZeroPoint : "0.".toList = ['0', '.'] := rfl
  rw [positional, digitText, zeros, value]
  simp only [String.toList_ofList, String.length_ofList]
  split
  · obtain ⟨k, hk⟩ := Int.eq_ofNat_of_zero_le ‹0 ≤ d.exponent›
    rw [hk, zpow_natCast]
    have h := spells_integer d.digits k pointZero
    cases pointZero <;> simpa using h
  · obtain ⟨places, hPlaces⟩ := Int.eq_ofNat_of_zero_le (by omega : 0 ≤ -d.exponent)
    rw [hPlaces, Int.toNat_natCast, show d.exponent = -(places : Int) by omega]
    split
    · simpa [hPoint] using spells_inside (by omega) ‹_›
    · simpa [hZeroPoint, zeros] using spells_below (Nat.le_of_not_lt ‹_›)

/-- What stands behind the mantissa. -/
def exponentText (plusSign : Bool) (e : Int) : List Char :=
  'e' :: ((if e < 0 then ['-'] else if plusSign then ['+'] else []) ++ Nat.toDigits 10 e.natAbs)

theorem readExponent_exponentText (plusSign : Bool) (e : Int) :
    Numeral.readExponent (exponentText plusSign e) = some e := by
  have hNonempty : Nat.toDigits 10 e.natAbs ≠ [] := by simp
  have hDigits : ∀ c ∈ Nat.toDigits 10 e.natAbs, isDigit c :=
    fun c hc => isDigit_of_mem_toDigits hc
  obtain ⟨sign, hText, hSign, hMinus⟩ : ∃ sign,
      (if e < 0 then ['-'] else if plusSign then ['+'] else []) = sign ∧ sign ∈ Numeral.signs ∧
        (sign = ['-'] ↔ e < 0) := by
    refine ⟨_, rfl, ?_⟩
    by_cases hNegative : e < 0
    · simp [hNegative, Numeral.signs]
    · cases plusSign <;> simp [hNegative, Numeral.signs]
  rw [exponentText, hText, Numeral.readExponent_sign (.inl rfl) hSign hNonempty hDigits,
    natOfDigits_toDigits]
  simp only [hMinus]
  split <;> exact congrArg some (by omega)

/-- The mantissa has its point after the first digit. -/
theorem spells_scientific (d : Decimal) (plusSign : Bool) :
    Spells (d.scientific plusSign).toList d.value := by
  obtain ⟨c, rest, hText⟩ := List.exists_cons_of_ne_nil (l := Nat.toDigits 10 d.digits) (by simp)
  have hDigits : ∀ x ∈ c :: rest, isDigit x := by
    rw [← hText]
    exact fun x hx => isDigit_of_mem_toDigits hx
  have hValue : natOfDigits (c :: rest) = d.digits := by
    rw [← hText, natOfDigits_toDigits]
  have hLeading : d.leadingExponent - rest.length = d.exponent := by
    rw [leadingExponent, lengthOf, hText, List.length_cons]
    omega
  let tail := exponentText plusSign d.leadingExponent
  have hTail : Numeral.EndsNumber tail := by
    simp [tail, exponentText, Numeral.EndsNumber]
  have hScientific : (d.scientific plusSign).toList =
      (if rest = [] then [c] else c :: '.' :: rest) ++ tail := by
    rw [scientific, digitText, String.toList_ofList, hText]
    cases rest <;> simp [tail, exponentText, digitText, apply_ite String.toList]
  have hLast : ∃ x ∈ tail.getLast?, isDigit x := by
    simpa [tail, exponentText] using exists_getLast?_digit
      ('e' :: if d.leadingExponent < 0 then ['-'] else if plusSign then ['+'] else [])
      (by simp) fun x (hx : x ∈ Nat.toDigits 10 d.leadingExponent.natAbs) =>
        isDigit_of_mem_toDigits hx
  rw [hScientific]
  refine ⟨⟨⟨[c], rest, d.leadingExponent⟩, ?_, ?_⟩, ?_, ?_⟩
  · have hFirst : ∀ x ∈ [c], isDigit x := fun x hx => hDigits x (by simp_all)
    have hRest : ∀ x ∈ rest, isDigit x := fun x hx => hDigits x (List.mem_cons_of_mem _ hx)
    split
    · subst rest
      rw [Numeral.read_whole (by simp) hFirst hTail, readExponent_exponentText]
      rfl
    · rw [show c :: '.' :: rest ++ tail = [c] ++ '.' :: (rest ++ tail) from rfl,
        Numeral.read_point (.inl (by simp)) hFirst hRest hTail, readExponent_exponentText]
      rfl
  · rw [Numeral.value, Numeral.significand, Numeral.scale, List.singleton_append, hValue, hLeading,
      value]
  · split <;> exact ⟨c, rfl, hDigits c List.mem_cons_self⟩
  · rw [List.getLast?_append_of_ne_nil _ (by simp [tail, exponentText])]
    exact hLast

end Decimal

end BotScript
