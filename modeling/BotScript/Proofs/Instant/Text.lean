import BotScript.Proofs.Text.Digits

/-! The text of an instant tells its minute, the second that the clock shows and the fraction.  So
two instants have the same text only if they lie in the same minute and are the same number of
nanoseconds from the start of 1970, where a leap second counts as the second after its own. -/

namespace BotScript

namespace Date

/-! ### Days and dates -/

/-- The days of an era before a year of it. -/
def yearStart (year : Nat) : Nat := 365 * year + year / 4 - year / 100

/-- The year of an era that a day of it is in. -/
def yearOfDay (day : Nat) : Nat := (day - day / 1460 + day / 36524 - day / 146096) / 365

theorem yearOfDay_yearStart : ∀ year < 400, yearOfDay (yearStart year) = year := by
  decide +kernel

theorem yearOfDay_before_yearStart : ∀ year < 400, yearOfDay (yearStart (year + 1) - 1) = year := by
  decide +kernel

theorem yearOfDay_mono {a b : Nat} (h : a ≤ b) (hb : b < 146097) : yearOfDay a ≤ yearOfDay b := by
  induction b, h using Nat.le_induction with
  | base => exact Nat.le_refl _
  | succ b hab ih =>
    have hStep : b - b / 1460 + b / 36524 - b / 146096 ≤
        (b + 1) - (b + 1) / 1460 + (b + 1) / 36524 - (b + 1) / 146096 := by
      omega
    exact (ih (by omega)).trans (Nat.div_le_div_right hStep)

/-- The days of a year are those from its start on; there are 366 at most. -/
theorem yearStart_le {day : Nat} (h : day < 146097) :
    yearOfDay day ≤ 399 ∧ yearStart (yearOfDay day) ≤ day ∧
      day ≤ yearStart (yearOfDay day) + 365 := by
  have hLast : yearOfDay day ≤ 399 := by
    have := yearOfDay_mono (show day ≤ 146096 by omega) (by decide)
    exact this.trans (by decide)
  generalize hy : yearOfDay day = y at *
  refine ⟨hLast, ?_, ?_⟩
  · by_contra hLess
    cases y with
    | zero => exact hLess (Nat.zero_le _)
    | succ y =>
      have := yearOfDay_mono (show day ≤ yearStart (y + 1) - 1 by omega) (by
        simp only [yearStart]
        omega)
      rw [yearOfDay_before_yearStart y (by omega)] at this
      omega
  · by_cases hEnd : y = 399
    · subst hEnd
      simp only [yearStart]
      omega
    · by_contra hGreat
      have := yearOfDay_mono (show yearStart (y + 1) ≤ day by
        simp only [yearStart] at *
        omega) h
      rw [yearOfDay_yearStart (y + 1) (by omega)] at this
      omega

/-- The date of a day by its era, its year in the era and its day in the year, both counted from
March. -/
theorem exists_ofDays (days : Int) : ∃ (era : Int) (year dayOfYear : Nat),
    year ≤ 399 ∧ dayOfYear ≤ 365 ∧
      days = era * 146097 + (yearStart year + dayOfYear : Nat) - 719468 ∧
      ofDays days =
        let fromMarch := (5 * dayOfYear + 2) / 153
        let month := if fromMarch < 10 then fromMarch + 3 else fromMarch - 9
        ⟨if month ≤ 2 then year + 400 * era + 1 else year + 400 * era, month,
          dayOfYear - (153 * fromMarch + 2) / 5 + 1⟩ := by
  have hNonneg := Int.emod_nonneg (days + 719468) (show (146097 : Int) ≠ 0 by decide)
  have hLess := Int.emod_lt_of_pos (days + 719468) (show (0 : Int) < 146097 by decide)
  have hDay : ((days + 719468) % 146097).toNat < 146097 := by omega
  obtain ⟨hYear, hStart, hEnd⟩ := yearStart_le hDay
  refine ⟨(days + 719468) / 146097, _, _ - yearStart (yearOfDay _), hYear, ?_, ?_, rfl⟩
  · omega
  · omega

theorem ofDays_injective {a b : Int} (h : ofDays a = ofDays b) : a = b := by
  obtain ⟨era, year, day, hYear, hDay, ha, hDate⟩ := exists_ofDays a
  obtain ⟨era', year', day', hYear', hDay', hb, hDate'⟩ := exists_ofDays b
  rw [hDate, hDate'] at h
  simp only [Date.mk.injEq] at h
  obtain ⟨hYears, hMonths, hDays⟩ := h
  have hMarch : (5 * day + 2) / 153 = (5 * day' + 2) / 153 := by
    split_ifs at hMonths <;> omega
  have hSame : day = day' := by omega
  rw [hMarch] at hYears
  have hCount : (year : Int) + 400 * era = year' + 400 * era' := by
    split_ifs at hYears <;> omega
  obtain rfl : year = year' := by omega
  obtain rfl : era = era' := by omega
  omega

/-! ### Texts of dates -/

theorem eq_of_parts {a b : Date} (hYear : a.year = b.year) (hMonth : a.month = b.month)
    (hDay : a.day = b.day) : a = b := by
  cases a
  cases b
  simp_all

/-- What stands before the digits of a year. -/
def yearSign (year : Int) : List Char :=
  if year < 0 then ['-'] else if 9999 < year then ['+'] else []

theorem toList_yearText (year : Int) :
    (yearText year).toList = yearSign year ++ (padded 4 year.natAbs).toList := by
  rw [yearText, yearSign, String.toList_append]
  split_ifs <;> rfl

/-- A year is known by its text, whatever follows the text that is no digit. -/
theorem yearText_inj {y z : Int} {us vs : List Char} (hus : Stops isDigit us)
    (hvs : Stops isDigit vs) (h : (yearText y).toList ++ us = (yearText z).toList ++ vs) :
    y = z ∧ us = vs := by
  have hSign (year : Int) : ∀ c ∈ yearSign year, isDigit c = false := by
    rw [yearSign]
    split_ifs
    · exact List.forall_mem_singleton.mpr rfl
    · exact List.forall_mem_singleton.mpr rfl
    · exact List.forall_mem_nil _
  rw [toList_yearText, toList_yearText, List.append_assoc, List.append_assoc] at h
  obtain ⟨hSigns, h⟩ := before_digits_inj (hSign y) (hSign z) (exists_head?_padded _ _ _)
    (exists_head?_padded _ _ _) h
  obtain ⟨hDigits, h⟩ := append_inj_of_stops (fun c hc => isDigit_of_mem_padded hc)
    (fun c hc => isDigit_of_mem_padded hc) hus hvs h
  have hSize := padded_injective hDigits
  refine ⟨?_, h⟩
  rw [yearSign, yearSign] at hSigns
  split_ifs at hSigns <;> first | omega | simp at hSigns

end Date

namespace Instant

/-! ### Texts of instants -/

/-- A run of digits and what follows the character that ends it. -/
theorem digits_inj {c : Char} {xs ys us vs : List Char} (hc : isDigit c = false)
    (hxs : ∀ x ∈ xs, isDigit x) (hys : ∀ x ∈ ys, isDigit x) (h : xs ++ c :: us = ys ++ c :: vs) :
    xs = ys ∧ us = vs := by
  obtain ⟨hRun, hRest⟩ := append_inj_of_stops hxs hys (stops_cons hc) (stops_cons hc) h
  exact ⟨hRun, List.tail_eq_of_cons_eq hRest⟩

/-- What stands between the seconds and the zone. -/
def fractionText (t : Instant) : List Char :=
  let places := (trimZeros (padded 9 t.fraction)).toList
  if places = [] then [] else '.' :: places

theorem fractionText_stops (t : Instant) (rest : List Char) (hRest : Stops isDigit rest) :
    Stops isDigit (t.fractionText ++ rest) := by
  rw [fractionText]
  split_ifs
  · exact hRest
  · exact stops_cons rfl

theorem fraction_eq_of_fractionText {s t : Instant} (h : s.fractionText = t.fractionText) :
    s.fraction = t.fraction := by
  have hPlaces : (trimZeros (padded 9 s.fraction)).toList =
      (trimZeros (padded 9 t.fraction)).toList := by
    rw [fractionText, fractionText] at h
    split_ifs at h <;> simp_all
  have hBelow (u : Instant) : u.fraction < 10 ^ 9 := Nat.mod_lt _ (by decide)
  have hValue := congrArg fractionOfDigits hPlaces
  rw [fractionOfDigits_trimZeros, fractionOfDigits_trimZeros,
    fractionOfDigits_padded (by decide) (hBelow s), fractionOfDigits_padded (by decide) (hBelow t),
    div_left_inj' (by positivity)] at hValue
  exact_mod_cast hValue

theorem toList_text (t : Instant) :
    t.text.toList = (Date.yearText t.date.year).toList ++ '-' :: ((padded 2 t.date.month).toList ++
      '-' :: ((padded 2 t.date.day).toList ++ ' ' ::
      ((padded 2 ((t.seconds % 86400).toNat / 3600)).toList ++ ':' ::
      ((padded 2 ((t.seconds % 86400).toNat / 60 % 60)).toList ++ ':' ::
      ((padded 2 ((t.seconds % 86400).toNat % 60 + t.nanos / nanosPerSecond)).toList ++
      (t.fractionText ++ " +0000 UTC".toList)))))) := by
  have hPlaces : (if (trimZeros (padded 9 t.fraction)).isEmpty then ""
      else "." ++ trimZeros (padded 9 t.fraction)).toList = t.fractionText := by
    simp only [fractionText, String.isEmpty_iff, ← String.toList_eq_nil_iff]
    split_ifs <;> simp
  rw [text, clockText, Date.text]
  simp only [String.toList_append, hPlaces, List.append_assoc]
  rfl

theorem getLast?_text (t : Instant) : t.text.toList.getLast? = some 'C' := by
  rw [text, String.toList_append, List.getLast?_append]
  rfl

/-- Instants have the same text if they show the same minute and are as many nanoseconds from the
start of 1970. -/
theorem text_eq_iff {s t : Instant} :
    s.text = t.text ↔ s.seconds / 60 = t.seconds / 60 ∧
      s.seconds * nanosPerSecond + s.nanos = t.seconds * nanosPerSecond + t.nanos := by
  have hDash : isDigit '-' = false := by decide
  have hSpace : isDigit ' ' = false := by decide
  have hColon : isDigit ':' = false := by decide
  have hPadded (w n : Nat) : ∀ c ∈ (padded w n).toList, isDigit c :=
    fun c hc => isDigit_of_mem_padded hc
  have hZone : Stops isDigit " +0000 UTC".toList := stops_cons hSpace
  constructor
  · intro h
    have hText := congrArg String.toList h
    rw [toList_text, toList_text] at hText
    obtain ⟨hYear, hText⟩ := Date.yearText_inj (stops_cons hDash) (stops_cons hDash) hText
    obtain ⟨hMonth, hText⟩ := digits_inj hDash (hPadded _ _) (hPadded _ _)
      (List.tail_eq_of_cons_eq hText)
    obtain ⟨hDay, hText⟩ := digits_inj hSpace (hPadded _ _) (hPadded _ _) hText
    obtain ⟨hHour, hText⟩ := digits_inj hColon (hPadded _ _) (hPadded _ _) hText
    obtain ⟨hMinute, hText⟩ := digits_inj hColon (hPadded _ _) (hPadded _ _) hText
    obtain ⟨hSecond, hText⟩ := append_inj_of_stops (hPadded _ _) (hPadded _ _)
      (fractionText_stops s _ hZone) (fractionText_stops t _ hZone) hText
    have hFraction := fraction_eq_of_fractionText (List.append_cancel_right hText)
    have hDays : s.seconds / 86400 = t.seconds / 86400 := Date.ofDays_injective
      (Date.eq_of_parts hYear (padded_injective hMonth) (padded_injective hDay))
    have hHours := padded_injective hHour
    have hMinutes := padded_injective hMinute
    have hSeconds := padded_injective hSecond
    simp only [fraction, nanosPerSecond] at hFraction hSeconds ⊢
    omega
  · rintro ⟨hMinute, hNanos⟩
    simp only [nanosPerSecond] at hNanos
    have hDate : s.date = t.date := congrArg Date.ofDays (by omega)
    have hHours : (s.seconds % 86400).toNat / 3600 = (t.seconds % 86400).toNat / 3600 := by omega
    have hMinutes : (s.seconds % 86400).toNat / 60 % 60 = (t.seconds % 86400).toNat / 60 % 60 := by
      omega
    have hSeconds : (s.seconds % 86400).toNat % 60 + s.nanos / nanosPerSecond =
        (t.seconds % 86400).toNat % 60 + t.nanos / nanosPerSecond := by
      simp only [nanosPerSecond]
      omega
    have hFraction : s.fraction = t.fraction := by
      simp only [fraction, nanosPerSecond]
      omega
    rw [text, text, clockText, clockText, hDate, hHours, hMinutes, hSeconds, hFraction]

end Instant

end BotScript
