import BotScript.Duration.Read
import BotScript.Duration.Text
import BotScript.Proofs.Text.Numeral

/-! The text of a duration is exact and canonical: it is a sign and amounts of units, the largest
unit that fits first, and these add up to the nanoseconds of the duration, as far as 64 bits hold
them.  Since a text can be cut into amounts in one way only, durations of different lengths have
different texts. -/

namespace BotScript

namespace Duration

/-! ### Numbers -/

/-- A number as it is written in positions: an integer and, behind a point, places that do not end
with a zero, if there are any. -/
@[ext] structure Positional where
  whole : Nat
  places : List Char
  digits : ∀ c ∈ places, isDigit c
  trimmed : places.getLast? ≠ some '0'

namespace Positional

variable {p q : Positional}

def text (p : Positional) : List Char :=
  Nat.toDigits 10 p.whole ++ if p.places = [] then [] else '.' :: p.places

def value (p : Positional) : ℚ := p.whole + fractionOfDigits p.places

def ofNat (n : Nat) : Positional := ⟨n, [], by simp, by simp⟩

/-- `value / 10 ^ places`. -/
def ofScaled (value places : Nat) : Positional where
  whole := value / 10 ^ places
  places := (trimZeros (padded places (value % 10 ^ places))).toList
  digits _ h := isDigit_of_mem_trimZeros (fun _ hc => isDigit_of_mem_padded hc) h
  trimmed := getLast?_trimZeros_ne _

@[simp] theorem text_ofNat (n : Nat) : (ofNat n).text = Nat.toDigits 10 n := by simp [text, ofNat]

@[simp] theorem value_ofNat (n : Nat) : (ofNat n).value = n := by
  simp [value, ofNat, fractionOfDigits, natOfDigits]

theorem isDigit_of_mem_whole {n : Nat} : ∀ c ∈ Nat.toDigits 10 n, isDigit c :=
  fun _ hc => isDigit_of_mem_toDigits hc

theorem isNumberChar_of_isDigit {c : Char} (h : isDigit c = true) : isNumberChar c = true := by
  simp [isNumberChar, h]

theorem isNumberChar_of_mem (p : Positional) : ∀ c ∈ p.text, isNumberChar c := by
  intro c hc
  rw [text, List.mem_append] at hc
  rcases hc with hc | hc
  · exact isNumberChar_of_isDigit (isDigit_of_mem_toDigits hc)
  · split at hc
    · exact absurd hc List.not_mem_nil
    · rcases List.mem_cons.mp hc with rfl | hc
      · rfl
      · exact isNumberChar_of_isDigit (p.digits c hc)

theorem exists_head?_text (p : Positional) (rest : List Char) :
    ∃ c ∈ (p.text ++ rest).head?, isDigit c := by
  rw [text, List.append_assoc]
  exact exists_head?_digit _ (by simp) fun c hc => isDigit_of_mem_toDigits hc

theorem text_injective (h : p.text = q.text) : p = q := by
  have hStops (places : List Char) : Stops isDigit (if places = [] then [] else '.' :: places) := by
    split
    · exact stops_nil
    · exact stops_cons rfl
  obtain ⟨hWhole, hPlaces⟩ := append_inj_of_stops (fun c hc => isDigit_of_mem_toDigits hc)
    (fun c hc => isDigit_of_mem_toDigits hc) (hStops p.places) (hStops q.places) h
  refine Positional.ext (toDigits_injective hWhole) ?_
  split at hPlaces <;> split at hPlaces <;> simp_all

theorem fractionOfDigits_ofScaled (value : Nat) {places : Nat} (h : 0 < places) :
    fractionOfDigits (ofScaled value places).places =
      (value % 10 ^ places : Nat) / 10 ^ places := by
  rw [ofScaled, fractionOfDigits_trimZeros,
    fractionOfDigits_padded h (Nat.mod_lt _ (Nat.pow_pos (by decide)))]

theorem value_ofScaled (value : Nat) {places : Nat} (h : 0 < places) :
    (ofScaled value places).value = value / 10 ^ places := by
  have hTen : (10 : ℚ) ^ places ≠ 0 := pow_ne_zero _ (by norm_num)
  have hSplit : (value : ℚ) =
      10 ^ places * (value / 10 ^ places : Nat) + (value % 10 ^ places : Nat) := by
    exact_mod_cast (Nat.div_add_mod value (10 ^ places)).symm
  rw [Positional.value, fractionOfDigits_ofScaled value h, eq_div_iff hTen, add_mul,
    div_mul_cancel₀ _ hTen, hSplit]
  simp only [ofScaled]
  ring

/-- There are no places just if the number is an integer. -/
theorem places_ofScaled_eq_nil_iff (value : Nat) {places : Nat} (h : 0 < places) :
    (ofScaled value places).places = [] ↔ value % 10 ^ places = 0 := by
  constructor
  · intro hNone
    have hFraction := fractionOfDigits_ofScaled value h
    rw [hNone, fractionOfDigits, eq_comm, natOfDigits, List.foldl_nil, Nat.cast_zero, zero_div,
      div_eq_zero_iff] at hFraction
    exact_mod_cast hFraction.resolve_right (pow_ne_zero _ (by norm_num))
  · intro hZero
    simp [ofScaled, hZero, trimZeros, toList_padded]

theorem toList_decimalText (value : Nat) {places : Nat} (h : 0 < places) :
    (decimalText value places).toList = (ofScaled value places).text := by
  have hOne : Nat.pow 10 places = 10 ^ places := rfl
  rw [decimalText, text]
  simp only [hOne, places_ofScaled_eq_nil_iff value h]
  split
  · simp [ofScaled]
  · simp [ofScaled]

end Positional

/-! ### Amounts -/

/-- The units in which durations are written. -/
inductive TextUnit
  | hour
  | minute
  | second
  | milli
  | micro
  | nano
  deriving DecidableEq

namespace TextUnit

def name : TextUnit → List Char
  | hour => ['h']
  | minute => ['m']
  | second => ['s']
  | milli => ['m', 's']
  | micro => ['µ', 's']
  | nano => ['n', 's']

/-- The nanoseconds of a unit. -/
def length : TextUnit → Nat
  | hour => 3600000000000
  | minute => 60000000000
  | second => 1000000000
  | milli => 1000000
  | micro => 1000
  | nano => 1

theorem name_injective {u v : TextUnit} (h : u.name = v.name) : u = v := by
  cases u <;> cases v <;> simp_all [name]

theorem name_ne_nil (u : TextUnit) : u.name ≠ [] := by cases u <;> exact List.cons_ne_nil _ _

theorem not_isNumberChar_of_mem (u : TextUnit) : ∀ c ∈ u.name, (!isNumberChar c) = true :=
  List.all_eq_true.mp (by cases u <;> decide)

theorem stops_name (u : TextUnit) (rest : List Char) : Stops isNumberChar (u.name ++ rest) := by
  cases u <;> exact stops_cons rfl

end TextUnit

/-- A number of a unit. -/
@[ext] structure Amount where
  number : Positional
  unit : TextUnit

namespace Amount

def text (a : Amount) : List Char := a.number.text ++ a.unit.name

/-- The nanoseconds of an amount. -/
def nanos (a : Amount) : ℚ := a.number.value * a.unit.length

end Amount

/-- The text of amounts. -/
def spelling (amounts : List Amount) : List Char := amounts.flatMap Amount.text

theorem spelling_nil : spelling [] = [] := rfl

theorem spelling_cons (a : Amount) (rest : List Amount) :
    spelling (a :: rest) = a.number.text ++ (a.unit.name ++ spelling rest) := by
  simp [spelling, Amount.text]

theorem spelling_stops (amounts : List Amount) :
    Stops (fun c => !isNumberChar c) (spelling amounts) := by
  cases amounts with
  | nil => exact stops_nil
  | cons a rest =>
    obtain ⟨c, hc, hDigit⟩ := a.number.exists_head?_text (a.unit.name ++ spelling rest)
    intro d hd
    rw [spelling_cons] at hd
    obtain rfl := Option.mem_unique hd hc
    simp [Positional.isNumberChar_of_isDigit hDigit]

/-- A text can be cut into amounts in one way. -/
theorem spelling_injective {as bs : List Amount} (h : spelling as = spelling bs) : as = bs := by
  induction as generalizing bs with
  | nil =>
    cases bs with
    | nil => rfl
    | cons b bs => simp [spelling_nil, spelling_cons, TextUnit.name_ne_nil] at h
  | cons a as ih =>
    cases bs with
    | nil => simp [spelling_nil, spelling_cons, TextUnit.name_ne_nil] at h
    | cons b bs =>
      rw [spelling_cons, spelling_cons] at h
      obtain ⟨hNumber, h⟩ := append_inj_of_stops a.number.isNumberChar_of_mem
        b.number.isNumberChar_of_mem (a.unit.stops_name _) (b.unit.stops_name _) h
      obtain ⟨hUnit, h⟩ := append_inj_of_stops a.unit.not_isNumberChar_of_mem
        b.unit.not_isNumberChar_of_mem (spelling_stops as) (spelling_stops bs) h
      rw [ih h, Amount.ext (Positional.text_injective hNumber) (TextUnit.name_injective hUnit)]

/-! ### The amounts of a duration -/

/-- The amounts in which a number of nanoseconds is written. -/
def amountsOf (n : Nat) : List Amount :=
  if n = 0 then [⟨.ofNat 0, .second⟩]
  else if n < 1000 then [⟨.ofNat n, .nano⟩]
  else if n < 1000000 then [⟨.ofScaled n 3, .micro⟩]
  else if n < 1000000000 then [⟨.ofScaled n 6, .milli⟩]
  else
    let hours : Amount := ⟨.ofNat (n / 3600000000000), .hour⟩
    let minutes : Amount := ⟨.ofNat (n % 3600000000000 / 60000000000), .minute⟩
    let seconds : Amount := ⟨.ofScaled (n % 60000000000) 9, .second⟩
    if 0 < n / 3600000000000 then [hours, minutes, seconds]
    else if 0 < n % 3600000000000 / 60000000000 then [minutes, seconds]
    else [seconds]

/-- Amounts are the canonical ones for a number of nanoseconds. -/
structure Canonical (n : Nat) (amounts : List Amount) : Prop where
  units : amounts.map (·.unit) ∈ [[.nano], [.micro], [.milli], [.second], [.minute, .second],
    [.hour, .minute, .second]]
  sum : (amounts.map Amount.nanos).sum = n
  /-- The first unit is the largest that fits. -/
  leading : ∃ u ∈ (amounts.map (·.unit)).head?,
    u.length ≤ n ∧ ∀ v : TextUnit, v.length ≤ n → v.length ≤ u.length
  /-- What follows a larger unit stays below the next one. -/
  below : ∀ a ∈ amounts.tail, a.number.value < 60
  whole : ∀ a ∈ amounts.dropLast, a.number.places = []

theorem nanos_ofScaled (n : Nat) {places : Nat} {u : TextUnit} (hPlaces : 0 < places)
    (hLength : u.length = 10 ^ places) : Amount.nanos ⟨.ofScaled n places, u⟩ = n := by
  have hTen : (10 : ℚ) ^ places ≠ 0 := pow_ne_zero _ (by norm_num)
  rw [Amount.nanos, Positional.value_ofScaled n hPlaces, hLength, Nat.cast_pow, Nat.cast_ofNat,
    div_mul_cancel₀ _ hTen]

theorem nanos_ofNat (n : Nat) (u : TextUnit) : Amount.nanos ⟨.ofNat n, u⟩ = n * u.length := by
  rw [Amount.nanos, Positional.value_ofNat]

theorem sum_amountsOf (n : Nat) : ((amountsOf n).map Amount.nanos).sum = n := by
  have hSeconds : Amount.nanos ⟨.ofScaled (n % 60000000000) 9, .second⟩ = (n % 60000000000 : Nat) :=
    nanos_ofScaled _ (by decide) rfl
  rw [amountsOf]
  simp only
  split_ifs with hZero hNanos hMicros hMillis hHours hMinutes
  · simp [nanos_ofNat, hZero]
  · simp [nanos_ofNat, TextUnit.length]
  · simp [nanos_ofScaled n (show 0 < 3 by decide) (u := .micro) rfl]
  · simp [nanos_ofScaled n (show 0 < 6 by decide) (u := .milli) rfl]
  · simp only [List.map_cons, List.map_nil, List.sum_cons, List.sum_nil, hSeconds, nanos_ofNat,
      TextUnit.length]
    norm_cast
    omega
  · simp only [List.map_cons, List.map_nil, List.sum_cons, List.sum_nil, hSeconds, nanos_ofNat,
      TextUnit.length]
    norm_cast
    omega
  · simp only [List.map_cons, List.map_nil, List.sum_cons, List.sum_nil, hSeconds]
    norm_cast
    omega

/-- What is left of the seconds after the minutes is less than a minute. -/
theorem seconds_below (n : Nat) : (Positional.ofScaled (n % 60000000000) 9).value < 60 := by
  have hRest : n % 60000000000 < 60 * 10 ^ 9 := Nat.mod_lt _ (by decide)
  rw [Positional.value_ofScaled _ (by decide), div_lt_iff₀ (by positivity)]
  exact_mod_cast hRest

theorem minutes_below (n : Nat) :
    (Positional.ofNat (n % 3600000000000 / 60000000000)).value < 60 := by
  have hRest : n % 3600000000000 / 60000000000 < 60 := by omega
  rw [Positional.value_ofNat]
  exact_mod_cast hRest

/-- The largest unit that fits into a number of nanoseconds. -/
def leadingUnit (n : Nat) : TextUnit :=
  if n < 1000 then .nano
  else if n < 1000000 then .micro
  else if n < 1000000000 then .milli
  else if n < 60000000000 then .second
  else if n < 3600000000000 then .minute
  else .hour

theorem leadingUnit_largest {n : Nat} (h : n ≠ 0) :
    (leadingUnit n).length ≤ n ∧
      ∀ v : TextUnit, v.length ≤ n → v.length ≤ (leadingUnit n).length := by
  rw [leadingUnit]
  split_ifs <;>
    refine ⟨by simp only [TextUnit.length]; omega, fun v hv => ?_⟩ <;>
    cases v <;> simp only [TextUnit.length] at hv ⊢ <;> omega

theorem head?_amountsOf {n : Nat} (h : n ≠ 0) :
    ((amountsOf n).map (·.unit)).head? = some (leadingUnit n) := by
  rw [amountsOf, leadingUnit]
  simp only
  split_ifs <;> first | rfl | omega

theorem canonical_amountsOf {n : Nat} (h : n ≠ 0) : Canonical n (amountsOf n) where
  units := by
    rw [amountsOf, if_neg h]
    simp only
    split_ifs <;> simp
  sum := sum_amountsOf n
  leading := ⟨leadingUnit n, head?_amountsOf h, leadingUnit_largest h⟩
  below := by
    have hSeconds := seconds_below n
    have hMinutes := minutes_below n
    rw [amountsOf, if_neg h]
    simp only
    split_ifs <;> simp_all
  whole := by
    rw [amountsOf, if_neg h]
    simp only
    split_ifs <;> simp [Positional.ofNat]

theorem toList_magnitudeText {n : Nat} (h : n ≠ 0) :
    (magnitudeText n).toList = spelling (amountsOf n) := by
  rw [magnitudeText, amountsOf, if_neg h]
  simp only
  split_ifs <;> simp [spelling, Amount.text, Positional.toList_decimalText, TextUnit.name]

/-- The text of a duration is its sign and its amounts. -/
theorem toList_text (d : Duration) :
    d.text.toList = signText (decide (d.clampedNanos < 0)) ++
      spelling (amountsOf d.clampedNanos.natAbs) := by
  rw [text]
  split
  · rename_i hZero
    rw [hZero]
    rfl
  · rename_i hNonzero
    rw [apply_ite String.toList, String.toList_append, toList_magnitudeText (by omega)]
    split <;> simp_all [signText]

theorem exists_digit_spelling {amounts : List Amount} (h : amounts ≠ []) :
    ∃ c ∈ (spelling amounts).head?, isDigit c := by
  obtain ⟨a, rest, rfl⟩ := List.exists_cons_of_ne_nil h
  rw [spelling_cons]
  exact a.number.exists_head?_text _

theorem amountsOf_ne_nil (n : Nat) : amountsOf n ≠ [] := by
  rw [amountsOf]
  simp only
  split_ifs <;> exact List.cons_ne_nil _ _

theorem getLast?_text (d : Duration) : d.text.toList.getLast? = some 's' := by
  have hLast (n : Nat) : (spelling (amountsOf n)).getLast? = some 's' := by
    rw [amountsOf]
    simp only
    split_ifs <;> simp [spelling, Amount.text, TextUnit.name, List.getLast?_cons]
  rw [toList_text, List.getLast?_append, hLast]
  rfl

/-- Durations have the same text if they are the same within 64 bits. -/
theorem text_eq_iff {d e : Duration} : d.text = e.text ↔ d.clampedNanos = e.clampedNanos := by
  constructor
  · intro h
    have hText := congrArg String.toList h
    rw [toList_text, toList_text] at hText
    obtain ⟨hSign, hAmounts⟩ := sign_and_digits_inj (exists_digit_spelling (amountsOf_ne_nil _))
      (exists_digit_spelling (amountsOf_ne_nil _)) hText
    have hSum := sum_amountsOf d.clampedNanos.natAbs
    rw [spelling_injective hAmounts, sum_amountsOf] at hSum
    have hMagnitude : e.clampedNanos.natAbs = d.clampedNanos.natAbs := by exact_mod_cast hSum
    have hNegative : d.clampedNanos < 0 ↔ e.clampedNanos < 0 := by simpa using hSign
    omega
  · intro h
    rw [text, text, h]

/-- The text of a duration is `0s`, or a sign and the canonical amounts for its nanoseconds, those
beyond the signed words of 64 bits cut off at the least and the greatest of them.  So it tells the
duration from all whose nanoseconds are others within these bounds. -/
theorem text_canonical (d : Duration) :
    let saturated (e : Duration) : Int := max (-2 ^ 63) (min (2 ^ 63 - 1) e.nanos)
    let n := saturated d
    (n = 0 → d.text = "0s") ∧
    (n ≠ 0 → ∃ amounts, Canonical n.natAbs amounts ∧
      d.text.toList = signText (decide (n < 0)) ++ spelling amounts) ∧
    ∀ e : Duration, saturated e ≠ n → e.text ≠ d.text := by
  intro saturated n
  have hSaturated : ∀ e : Duration, e.clampedNanos = saturated e := fun _ => rfl
  refine ⟨fun hZero => ?_, fun hNonzero => ?_, fun e hOther hSame => hOther ?_⟩
  · rw [text, hSaturated, if_pos hZero]
  · refine ⟨_, canonical_amountsOf (by omega), ?_⟩
    rw [toList_text, hSaturated]
  · have hText := text_eq_iff.mp hSame
    rwa [hSaturated, hSaturated] at hText

end Duration

end BotScript
