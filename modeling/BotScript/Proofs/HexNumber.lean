import BotScript.Coercion
import BotScript.Proofs.Text.Digits
import BotScript.Proofs.Text.Integer

/-! The numbers of colours.  `hexToDecimal` reads a text as a hexadecimal integer of 32 bits, one of
which is the sign, behind any number of `#`.  A hexadecimal number of 32 bits behind at most one `#`
is something else: it has no sign, and all its bits are for the number. -/

namespace BotScript

/-- A hexadecimal number of 32 bits, behind a `#` or none. -/
def IsHexNumber (cs : List Char) (n : Nat) : Prop :=
  ∃ digits, (cs = digits ∨ cs = '#' :: digits) ∧ digits ≠ [] ∧ Denotes 16 digits n ∧ n < 2 ^ 32

/-- A hexadecimal integer behind a number of `#`. -/
structure IsColour (hashes : Nat) (integer : List Char) (cs : List Char) (z : Int) : Prop where
  text : cs = List.replicate hashes '#' ++ integer
  integer : IsInteger 16 integer z

/-- What a hexadecimal number has no place for: a second `#`, or a sign. -/
def IsLoose (hashes : Nat) (integer : List Char) : Prop :=
  2 ≤ hashes ∨ ∃ c ∈ integer.head?, c = '+' ∨ c = '-'

variable {hashes hashes' : Nat} {integer integer' cs : List Char} {z z' : Int} {m : Nat}

theorem IsInteger.stops (h : IsInteger 16 integer z) : Stops (· == '#') integer := by
  cases h with
  | plain hNonempty hDigits =>
    obtain ⟨c, rest, rfl⟩ := List.exists_cons_of_ne_nil hNonempty
    obtain ⟨-, -, hHash⟩ := hDigits.head_ne (by decide)
    exact stops_cons (by simpa using hHash)
  | plus => exact stops_cons rfl
  | minus => exact stops_cons rfl

theorem eq_hash_of_mem : ∀ c ∈ List.replicate hashes '#', (c == '#') = true := by
  intro c hc
  simp [List.eq_of_mem_replicate hc]

/-- What is behind the `#` at the start of a text. -/
theorem exists_hashes (cs : List Char) :
    ∃ hashes, cs = List.replicate hashes '#' ++ cs.dropWhile (· == '#') := by
  refine ⟨(cs.takeWhile (· == '#')).length, ?_⟩
  have hHashes : cs.takeWhile (· == '#') = List.replicate (cs.takeWhile (· == '#')).length '#' :=
    List.eq_replicate_of_mem fun c hc => by simpa using List.mem_takeWhile_imp hc
  rw [← hHashes, List.takeWhile_append_dropWhile]

/-- A text is a colour in one way. -/
theorem IsColour.unique (h : IsColour hashes integer cs z) (h' : IsColour hashes' integer' cs z') :
    hashes = hashes' ∧ integer = integer' := by
  obtain ⟨hHashes, hInteger⟩ := append_inj_of_stops eq_hash_of_mem eq_hash_of_mem h.integer.stops
    h'.integer.stops (h.text.symm.trans h'.text)
  exact ⟨by simpa using congrArg List.length hHashes, hInteger⟩

/-- A hexadecimal number is a colour with at most one `#` and without a sign. -/
theorem isHexNumber_iff :
    IsHexNumber cs m ↔
      m < 2 ^ 32 ∧ ∃ hashes integer, IsColour hashes integer cs m ∧ ¬IsLoose hashes integer := by
  constructor
  · rintro ⟨digits, hText, hNonempty, hDigits, hBits⟩
    have hUnsigned : ¬∃ c ∈ digits.head?, c = '+' ∨ c = '-' := by
      rintro ⟨c, hc, hSign⟩
      obtain ⟨rest, rfl⟩ := List.head?_eq_some_iff.mp hc
      obtain ⟨hPlus, hMinus, -⟩ := hDigits.head_ne (by decide)
      exact hSign.elim hPlus hMinus
    refine ⟨hBits, ?_⟩
    obtain hText | hText := hText
    · exact ⟨0, digits, ⟨hText, .plain hNonempty hDigits⟩, by simpa [IsLoose] using hUnsigned⟩
    · exact ⟨1, digits, ⟨hText, .plain hNonempty hDigits⟩, by simpa [IsLoose] using hUnsigned⟩
  · rintro ⟨hBits, hashes, integer, ⟨hText, hInteger⟩, hStrict⟩
    obtain ⟨hHashes, hUnsigned⟩ := not_or.mp hStrict
    generalize hm : (m : Int) = z at hInteger
    cases hInteger with
    | @plain _ n hNonempty hDigits =>
      obtain rfl : m = n := by omega
      refine ⟨integer, ?_, hNonempty, hDigits, hBits⟩
      obtain rfl | rfl : hashes = 0 ∨ hashes = 1 := by omega
      · exact .inl hText
      · exact .inr hText
    | plus => exact absurd ⟨_, rfl, .inl rfl⟩ hUnsigned
    | minus => exact absurd ⟨_, rfl, .inr rfl⟩ hUnsigned

/-- Without a sign there is no negative number. -/
theorem IsColour.exists_eq (h : IsColour hashes integer cs z) (hStrict : ¬IsLoose hashes integer) :
    ∃ m : Nat, z = m := by
  obtain ⟨-, hUnsigned⟩ := not_or.mp hStrict
  cases h.integer with
  | @plain _ m => exact ⟨m, rfl⟩
  | @plus _ m => exact ⟨m, rfl⟩
  | minus => exact absurd ⟨_, rfl, .inr rfl⟩ hUnsigned

theorem IsColour.not_isHexNumber (h : IsColour hashes integer cs z)
    (hLoose : IsLoose hashes integer) :
    ¬IsHexNumber cs m := by
  intro hHex
  obtain ⟨-, hashes', integer', hColour, hStrict⟩ := isHexNumber_iff.mp hHex
  obtain ⟨rfl, rfl⟩ := h.unique hColour
  exact hStrict hLoose

namespace Value

variable {wrappers : Nat} {s : String}

theorem hexToDecimal_text (wrappers : Nat) (s : String) :
    (wrapped wrappers (.text s)).hexToDecimal =
      match readInteger 16 0x7FFFFFFF (String.ofList (s.toList.dropWhile (· == '#'))) with
      | .ok n => .ok (Int64.ofInt n)
      | .error cause => .error (.hexNumber s cause) := by
  simp only [hexToDecimal, toText, dereference_wrapped, dereference]
  rfl

theorem toInt_ofInt_of_bounds {z : Int} (hLow : -2 ^ 63 ≤ z) (hHigh : z < 2 ^ 63) :
    (Int64.ofInt z).toInt = z := by
  have hMin : Int64.minValue.toInt = -2 ^ 63 := by decide
  have hMax : Int64.maxValue.toInt = 2 ^ 63 - 1 := by decide
  apply Int64.toInt_ofInt_of_le <;> omega

/-- `hexToDecimal` reads the colours of 32 bits. -/
theorem hexToDecimal_eq_ok_iff {n : Int64} :
    (wrapped wrappers (.text s)).hexToDecimal = .ok n ↔
      (∃ hashes integer, IsColour hashes integer s.toList n.toInt) ∧
        -2 ^ 31 ≤ n.toInt ∧ n.toInt < 2 ^ 31 := by
  have hRead (z : Int) :
      readInteger 16 0x7FFFFFFF (String.ofList (s.toList.dropWhile (· == '#'))) = .ok z ↔ _ :=
    readInteger_eq_ok_iff (by decide) (by decide)
  rw [hexToDecimal_text]
  constructor
  · intro h
    split at h
    · rename_i z hOk
      obtain ⟨hInteger, hLow, hHigh⟩ := (hRead z).mp hOk
      obtain ⟨hashes, hText⟩ := exists_hashes s.toList
      obtain rfl := Except.ok.inj h
      rw [toInt_ofInt_of_bounds (by omega) (by omega)]
      exact ⟨⟨hashes, _, hText, by simpa using hInteger⟩, by omega, by omega⟩
    · exact nomatch h
  · rintro ⟨⟨hashes, integer, h⟩, hLow, hHigh⟩
    have hRest : s.toList.dropWhile (· == '#') = integer := by
      rw [h.text, dropWhile_append_of_stops eq_hash_of_mem h.integer.stops]
    rw [(hRead n.toInt).mpr ⟨by simpa [hRest] using h.integer, by omega, by omega⟩]
    simp

theorem hexToDecimal_ok_or_error (wrappers : Nat) (s : String) :
    (∃ n, (wrapped wrappers (.text s)).hexToDecimal = .ok n) ∨
      ∃ cause, (wrapped wrappers (.text s)).hexToDecimal = .error (.hexNumber s cause) := by
  rw [hexToDecimal_text]
  split
  · exact .inl ⟨_, rfl⟩
  · exact .inr ⟨_, rfl⟩

/-- `hexToDecimal` reads just the hexadecimal numbers of 32 bits if and only if the text is not one
with the highest bit set and is not a colour with a second `#` or a sign.  What it reads in every
case is the colours of 32 bits, and any other text is an error that quotes it. -/
theorem hexToDecimal_reads_hexNumbers_iff (wrappers : Nat) (s : String) :
    let v := wrapped wrappers (.text s)
    ((∀ n : Int64, v.hexToDecimal = .ok n ↔ ∃ m : Nat, IsHexNumber s.toList m ∧ n.toInt = m) ↔
      (∀ m, IsHexNumber s.toList m → m < 2 ^ 31) ∧
        ∀ hashes integer z, IsColour hashes integer s.toList z → -2 ^ 31 ≤ z → z < 2 ^ 31 →
          ¬IsLoose hashes integer) ∧
    (∀ n : Int64, v.hexToDecimal = .ok n ↔
      (∃ hashes integer, IsColour hashes integer s.toList n.toInt) ∧
        -2 ^ 31 ≤ n.toInt ∧ n.toInt < 2 ^ 31) ∧
    ((∃ n, v.hexToDecimal = .ok n) ∨ ∃ cause, v.hexToDecimal = .error (.hexNumber s cause)) := by
  intro v
  refine ⟨⟨fun hDocumented =>
      ⟨fun m hHex => ?_, fun hashes integer z hColour hLow hHigh hLoose => ?_⟩,
    fun ⟨hSmall, hStrict⟩ n => ?_⟩, fun n => hexToDecimal_eq_ok_iff, hexToDecimal_ok_or_error _ _⟩
  · obtain ⟨hBits, -⟩ := isHexNumber_iff.mp hHex
    have hValue : (Int64.ofInt m).toInt = m := toInt_ofInt_of_bounds (by omega) (by omega)
    obtain ⟨-, -, hHigh⟩ := hexToDecimal_eq_ok_iff.mp ((hDocumented _).mpr ⟨m, hHex, hValue⟩)
    omega
  · have hValue : (Int64.ofInt z).toInt = z := toInt_ofInt_of_bounds (by omega) (by omega)
    have hRead : v.hexToDecimal = .ok (Int64.ofInt z) :=
      hexToDecimal_eq_ok_iff.mpr ⟨⟨hashes, integer, hValue.symm ▸ hColour⟩, by omega, by omega⟩
    obtain ⟨m, hHex, -⟩ := (hDocumented _).mp hRead
    exact hColour.not_isHexNumber hLoose hHex
  · rw [hexToDecimal_eq_ok_iff]
    constructor
    · rintro ⟨⟨hashes, integer, hColour⟩, hLow, hHigh⟩
      have hNotLoose := hStrict hashes integer _ hColour hLow hHigh
      obtain ⟨m, hm⟩ := hColour.exists_eq hNotLoose
      exact ⟨m, isHexNumber_iff.mpr ⟨by omega, hashes, integer, hm ▸ hColour, hNotLoose⟩, hm⟩
    · rintro ⟨m, hHex, hm⟩
      obtain ⟨-, hashes, integer, hColour, -⟩ := isHexNumber_iff.mp hHex
      have := hSmall m hHex
      exact ⟨⟨hashes, integer, hm ▸ hColour⟩, by omega, by omega⟩

/-- A number with the highest bit set is refused, and a second `#` and a sign are not. -/
theorem hexToDecimal_of_loose_texts :
    IsHexNumber "#80000000".toList (2 ^ 31) ∧
      (text "#80000000").hexToDecimal = .error (.hexNumber "#80000000" .tooLarge) ∧
    (text "##ff").hexToDecimal = .ok 255 ∧ (∀ m, ¬IsHexNumber "##ff".toList m) ∧
    (text "-ff").hexToDecimal = .ok (-255) ∧ ∀ m, ¬IsHexNumber "-ff".toList m := by
  have hBytes : Denotes 16 ['f', 'f'] 255 := ⟨[15, 15], by decide, rfl⟩
  have hHigh : Denotes 16 "80000000".toList (2 ^ 31) :=
    ⟨[8, 0, 0, 0, 0, 0, 0, 0], by decide, rfl⟩
  refine ⟨⟨_, .inr rfl, by decide, hHigh, by decide⟩, by decide, by decide, fun m => ?_,
    by decide +kernel, fun m => ?_⟩
  · have hColour : IsColour 2 ['f', 'f'] "##ff".toList 255 := ⟨rfl, .plain (by decide) hBytes⟩
    exact hColour.not_isHexNumber (.inl (le_refl 2))
  · have hColour : IsColour 0 ['-', 'f', 'f'] "-ff".toList (-255) :=
      ⟨rfl, .minus (by decide) hBytes⟩
    exact hColour.not_isHexNumber (.inr ⟨'-', rfl, .inr rfl⟩)

end Value

end BotScript
