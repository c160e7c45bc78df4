import BotScript.Proofs.Binary64.Text
import BotScript.Proofs.Duration.Text
import BotScript.Proofs.Instant.Text

/-! The texts of keys.  Different keys have different texts, with the exceptions that `Alike` lists:
NaNs, durations that differ beyond 64 bits only, leap seconds, floats that show an integer, and the
texts of other keys. -/

namespace BotScript

namespace Key

/-- Keys that are the same, or different ones with the same text. -/
inductive Alike : Key → Key → Prop
  | same (k : Key) : Alike k k
  | nan {x y : Binary64} : x.isNaN = true → y.isNaN = true → Alike (float x) (float y)
  | clamped {d e : Duration} :
      max (-2 ^ 63) (min (2 ^ 63 - 1) d.nanos) = max (-2 ^ 63) (min (2 ^ 63 - 1) e.nanos) →
      Alike (duration d) (duration e)
  | leap {s t : Instant} : s.seconds / 60 = t.seconds / 60 →
      s.seconds * Instant.nanosPerSecond + s.nanos = t.seconds * Instant.nanosPerSecond + t.nanos →
      Alike (instant s) (instant t)
  | integer {n : Int64} {x : Binary64} : x.isFinite = true → x ≠ .negativeZero →
      x.shown printedNumber.tie = n.toInt → Alike (int n) (float x)
  | spelled (k : Key) : Alike (text k.print) k
  | symm {k l : Key} : Alike k l → Alike l k

/-! ### How texts end -/

/-- Kinds of keys by how their texts end.  Texts of numbers end alike, and those of texts anyhow. -/
inductive Ending
  | truth
  | number
  | length
  | zone
  deriving DecidableEq

/-- What the last character of a text tells. -/
def Ending.ofChar (last : Char) : Ending :=
  if last = 'e' then truth else if last = 's' then length else if last = 'C' then zone else number

def ending? : Key → Option Ending
  | bool _ => some .truth
  | int _ => some .number
  | float _ => some .number
  | text _ => none
  | duration _ => some .length
  | instant _ => some .zone

theorem Ending.ofChar_of_isDigit {c : Char} (h : isDigit c = true) : ofChar c = number := by
  have hLetters : isDigit 'e' = false ∧ isDigit 's' = false ∧ isDigit 'C' = false := by decide
  rw [ofChar]
  split_ifs <;> simp_all

theorem ending_of_print {k : Key} {ending : Ending} (h : k.ending? = some ending) :
    k.print.toList.getLast?.map Ending.ofChar = some ending := by
  suffices hLast : ∃ c ∈ k.print.toList.getLast?, Ending.ofChar c = ending by
    obtain ⟨c, hc, rfl⟩ := hLast
    rw [hc, Option.map_some]
  cases k with
  | bool b =>
    cases h
    cases b <;> exact ⟨'e', rfl, rfl⟩
  | int n =>
    cases h
    obtain ⟨c, hc, hDigit⟩ := exists_getLast?_toString_int n.toInt
    exact ⟨c, hc, Ending.ofChar_of_isDigit hDigit⟩
  | float x =>
    cases h
    obtain ⟨c, hc, hDigit, hName⟩ := Binary64.last_of_render x
    refine ⟨c, hc, ?_⟩
    cases hx : x.isFinite with
    | true => exact Ending.ofChar_of_isDigit (hDigit.trans hx)
    | false => rcases hName hx with rfl | rfl <;> rfl
  | text s => exact nomatch h
  | duration d =>
    cases h
    exact ⟨'s', d.getLast?_text, rfl⟩
  | instant t =>
    cases h
    exact ⟨'C', t.getLast?_text, rfl⟩

theorem ending_unique {k l : Key} {e f : Ending} (hk : k.ending? = some e) (hl : l.ending? = some f)
    (h : k.print = l.print) : e = f := by
  have hEnding := ending_of_print hk
  rw [h, ending_of_print hl] at hEnding
  exact (Option.some.inj hEnding).symm

/-! ### Keys with the same text -/

theorem int_print_eq_float_iff {n : Int64} {x : Binary64} :
    (int n).print = (float x).print ↔
      x.isFinite = true ∧ x ≠ .negativeZero ∧ x.shown printedNumber.tie = n.toInt := by
  have hBound : n.toInt.natAbs < 10 ^ 21 := by
    have hLow := n.le_toInt
    have hHigh := n.toInt_lt
    omega
  change toString n.toInt = x.render printedNumber ↔ _
  rw [eq_comm]
  constructor
  · intro h
    have hFinite : x.isFinite = true := by
      obtain ⟨c, hc, hDigit⟩ := exists_getLast?_toString_int n.toInt
      obtain ⟨d, hd, hdDigit, -⟩ := Binary64.last_of_render x
      rw [h] at hd
      rw [← hdDigit, Option.mem_unique hd hc, hDigit]
    exact ⟨hFinite, (Binary64.render_eq_toString_iff hBound hFinite).mp h⟩
  · rintro ⟨hFinite, hShown⟩
    exact (Binary64.render_eq_toString_iff hBound hFinite).mpr hShown

theorem print_eq_of_alike {k l : Key} (h : Alike k l) : k.print = l.print := by
  induction h with
  | same => rfl
  | nan hx hy => exact Binary64.render_eq_iff.mpr (.inr ⟨hx, hy⟩)
  | clamped h => exact Duration.text_eq_iff.mpr h
  | leap hMinute hNanos => exact Instant.text_eq_iff.mpr ⟨hMinute, hNanos⟩
  | integer hFinite hZero hShown => exact int_print_eq_float_iff.mpr ⟨hFinite, hZero, hShown⟩
  | spelled => rfl
  | symm _ ih => exact ih.symm

theorem alike_of_text {s : String} {l : Key} (h : (text s).print = l.print) : Alike (text s) l := by
  obtain rfl : s = l.print := h
  exact .spelled l

theorem alike_of_print_eq {k l : Key} (h : k.print = l.print) : Alike k l := by
  -- Keys whose texts end differently are ruled out; of the others only pairs of one kind and pairs
  -- of an integer and a float are left.
  cases k with
  | bool a =>
    cases l with
    | bool b =>
      obtain rfl : a = b := by
        cases a <;> cases b <;> first | rfl | exact absurd h (by decide)
      exact .same _
    | text s => exact (alike_of_text h.symm).symm
    | _ => exact nomatch ending_unique rfl rfl h
  | int m =>
    cases l with
    | int n =>
      rw [Int64.toInt_inj.mp (toString_int_injective h)]
      exact .same _
    | float x =>
      obtain ⟨hFinite, hZero, hShown⟩ := int_print_eq_float_iff.mp h
      exact .integer hFinite hZero hShown
    | text s => exact (alike_of_text h.symm).symm
    | _ => exact nomatch ending_unique rfl rfl h
  | float x =>
    cases l with
    | int n =>
      obtain ⟨hFinite, hZero, hShown⟩ := int_print_eq_float_iff.mp h.symm
      exact (Alike.integer hFinite hZero hShown).symm
    | float y =>
      obtain rfl | ⟨hx, hy⟩ := Binary64.render_eq_iff.mp h
      · exact .same _
      · exact .nan hx hy
    | text s => exact (alike_of_text h.symm).symm
    | _ => exact nomatch ending_unique rfl rfl h
  | text s => exact alike_of_text h
  | duration d =>
    cases l with
    | duration e => exact .clamped (Duration.text_eq_iff.mp h)
    | text s => exact (alike_of_text h.symm).symm
    | _ => exact nomatch ending_unique rfl rfl h
  | instant s =>
    cases l with
    | instant t =>
      obtain ⟨hMinute, hNanos⟩ := Instant.text_eq_iff.mp h
      exact .leap hMinute hNanos
    | text s => exact (alike_of_text h.symm).symm
    | _ => exact nomatch ending_unique rfl rfl h

/-- Keys have the same text just if they are alike. -/
theorem print_eq_iff (k l : Key) : k.print = l.print ↔ Alike k l :=
  ⟨alike_of_print_eq, print_eq_of_alike⟩

end Key

end BotScript
