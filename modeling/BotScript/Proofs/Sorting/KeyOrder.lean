import BotScript.Proofs.Binary64.Order
import BotScript.Proofs.Text.ByteOrder
import BotScript.Sorting

/-! The values of the buckets, and the order in which those of one bucket are sorted.  `AtMost` says
of two values of a bucket that the first may come before the second: it is a total preorder on each
of the six buckets that are sorted, and it is what `Sorting.compare` decides there. -/

namespace BotScript

/-- The values that each bucket holds. -/
inductive Bucket.Holds : Bucket → Value → Prop
  | int (n : Int64) : Holds ints (.int n)
  | float (x : Binary64) : Holds floats (.float x)
  | text (s : String) : Holds texts (.text s)
  | instant (t : Instant) : Holds instants (.instant t)
  | list (items : List Value) : Holds lists (.list items)
  | dict (d : Dict) : Holds maps (.dict d)
  | textDict (d : TextDict) : Holds maps (.textDict d)
  | null : Holds others .null
  | bool (b : Bool) : Holds others (.bool b)
  | duration (d : Duration) : Holds others (.duration d)
  | ref (inner : Option Value) : Holds others (.ref inner)
  | object (o : HostObject) : Holds others (.object o)

theorem Bucket.ofValue_eq_iff {v : Value} {b : Bucket} : ofValue v = b ↔ b.Holds v := by
  constructor
  · rintro rfl
    cases v <;> constructor
  · intro h
    cases h <;> rfl

/-- The number of entries of a map. -/
def Value.entryCount? : Value → Option Nat
  | .dict d => some d.length
  | .textDict d => some d.length
  | _ => none

namespace Sorting

/-- Two values of one bucket of which the first is at most the second: numbers by value, with every
NaN below all of them, texts by their bytes, instants by time, and lists and maps by size. -/
inductive AtMost : Value → Value → Prop
  | ints {m n : Int64} (h : m.toInt ≤ n.toInt) : AtMost (.int m) (.int n)
  | floats {x y : Binary64}
      (h : x.isNaN = true ∨ y.isNaN = false ∧ x.signedUnits ≤ y.signedUnits) :
      AtMost (.float x) (.float y)
  | texts {s t : String} (h : textBytes s.toList ≤ textBytes t.toList) :
      AtMost (.text s) (.text t)
  | instants {s t : Instant}
      (h : s.seconds < t.seconds ∨ s.seconds = t.seconds ∧ s.nanos ≤ t.nanos) :
      AtMost (.instant s) (.instant t)
  | lists {vs ws : List Value} (h : vs.length ≤ ws.length) : AtMost (.list vs) (.list ws)
  | maps {v w : Value} {m n : Nat} (hLeft : v.entryCount? = some m)
      (hRight : w.entryCount? = some n) (h : m ≤ n) : AtMost v w

theorem AtMost.trans {u v w : Value} (h1 : AtMost u v) (h2 : AtMost v w) : AtMost u w := by
  cases h1 with
  | ints h1 =>
    cases h2 with
    | ints h2 => exact .ints (Int.le_trans h1 h2)
    | maps hLeft => exact nomatch hLeft
  | floats h1 =>
    cases h2 with
    | floats h2 =>
      refine .floats ?_
      rcases h1 with hNaN | ⟨hNumber, hLe⟩
      · exact .inl hNaN
      · rcases h2 with hNaN | ⟨hNumber', hLe'⟩
        · rw [hNaN] at hNumber
          exact nomatch hNumber
        · exact .inr ⟨hNumber', Int.le_trans hLe hLe'⟩
    | maps hLeft => exact nomatch hLeft
  | texts h1 =>
    cases h2 with
    | texts h2 => exact .texts (Std.IsPreorder.le_trans _ _ _ h1 h2)
    | maps hLeft => exact nomatch hLeft
  | instants h1 =>
    cases h2 with
    | instants h2 => exact .instants (by omega)
    | maps hLeft => exact nomatch hLeft
  | lists h1 =>
    cases h2 with
    | lists h2 => exact .lists (Nat.le_trans h1 h2)
    | maps hLeft => exact nomatch hLeft
  | maps hLeft1 hRight1 h1 =>
    cases h2 with
    | maps hLeft2 hRight2 h2 =>
      rw [hRight1] at hLeft2
      cases hLeft2
      exact .maps hLeft1 hRight2 (Nat.le_trans h1 h2)
    | ints _ | floats _ | texts _ | instants _ | lists _ => exact nomatch hRight1

theorem isLE_compareNaNFirst (x y : Binary64) : (x.compareNaNFirst y).isLE = true ↔
    x.isNaN = true ∨ y.isNaN = false ∧ x.signedUnits ≤ y.signedUnits := by
  rw [Binary64.compareNaNFirst]
  rcases x.isNaN with _ | _ <;> rcases y.isNaN with _ | _ <;>
    simp [Int.isLE_compare, Binary64.place_le_place_iff]

theorem isLE_compareInstant (s t : Instant) : (s.compare t).isLE = true ↔
    s.seconds < t.seconds ∨ s.seconds = t.seconds ∧ s.nanos ≤ t.nanos := by
  rw [Instant.compare, Ordering.isLE_then_iff_or, Int.compare_eq_lt, Int.compare_eq_eq,
    Nat.isLE_compare]

theorem compare_maps {v w : Value} {m n : Nat} (hLeft : v.entryCount? = some m)
    (hRight : w.entryCount? = some n) : compare v w = Ord.compare m n := by
  cases v with
  | dict d | textDict d =>
    cases w with
    | dict e | textDict e =>
      cases hLeft
      cases hRight
      rfl
    | _ => exact nomatch hRight
  | _ => exact nomatch hLeft

/-- Two values of one bucket that is sorted. -/
inductive Comparable : Value → Value → Prop
  | ints (m n : Int64) : Comparable (.int m) (.int n)
  | floats (x y : Binary64) : Comparable (.float x) (.float y)
  | texts (s t : String) : Comparable (.text s) (.text t)
  | instants (s t : Instant) : Comparable (.instant s) (.instant t)
  | lists (vs ws : List Value) : Comparable (.list vs) (.list ws)
  | maps {v w : Value} {m n : Nat} (hLeft : v.entryCount? = some m)
      (hRight : w.entryCount? = some n) : Comparable v w

theorem comparable_of_bucket {v w : Value} (hSame : Bucket.ofValue v = Bucket.ofValue w)
    (hSorted : Bucket.ofValue v ≠ .others) : Comparable v w := by
  cases v with
  | int m =>
    cases w with
    | int n => exact .ints m n
    | _ => exact nomatch hSame
  | float x =>
    cases w with
    | float y => exact .floats x y
    | _ => exact nomatch hSame
  | text s =>
    cases w with
    | text t => exact .texts s t
    | _ => exact nomatch hSame
  | instant s =>
    cases w with
    | instant t => exact .instants s t
    | _ => exact nomatch hSame
  | list vs =>
    cases w with
    | list ws => exact .lists vs ws
    | _ => exact nomatch hSame
  | dict d | textDict d =>
    cases w with
    | dict e | textDict e => exact .maps rfl rfl
    | _ => exact nomatch hSame
  | null | bool _ | duration _ | ref _ | object _ => exact absurd rfl hSorted

/-- Within a bucket that is sorted, `compare` decides the order of the bucket. -/
theorem compare_isLE_iff {v w : Value} (h : Comparable v w) :
    (compare v w).isLE = true ↔ AtMost v w := by
  cases h with
  | ints m n =>
    rw [compare, Int.isLE_compare]
    refine ⟨.ints, fun h => ?_⟩
    cases h with
    | ints h => exact h
    | maps hLeft => exact nomatch hLeft
  | floats x y =>
    rw [compare, isLE_compareNaNFirst]
    refine ⟨.floats, fun h => ?_⟩
    cases h with
    | floats h => exact h
    | maps hLeft => exact nomatch hLeft
  | texts s t =>
    rw [compare, Std.LawfulBCmp.isLE_iff_le, ← textBytes_le_iff]
    refine ⟨.texts, fun h => ?_⟩
    cases h with
    | texts h => exact h
    | maps hLeft => exact nomatch hLeft
  | instants s t =>
    rw [compare, isLE_compareInstant]
    refine ⟨.instants, fun h => ?_⟩
    cases h with
    | instants h => exact h
    | maps hLeft => exact nomatch hLeft
  | lists vs ws =>
    show (Ord.compare vs.length ws.length).isLE = true ↔ _
    rw [Nat.isLE_compare]
    refine ⟨.lists, fun h => ?_⟩
    cases h with
    | lists h => exact h
    | maps hLeft => exact nomatch hLeft
  | @maps v w m n hLeft hRight =>
    rw [compare_maps hLeft hRight, Nat.isLE_compare]
    refine ⟨.maps hLeft hRight, fun h => ?_⟩
    cases h with
    | maps hLeft' hRight' h =>
      rw [hLeft] at hLeft'
      rw [hRight] at hRight'
      cases hLeft'
      cases hRight'
      exact h
    | ints _ | floats _ | texts _ | instants _ | lists _ => exact nomatch hLeft

/-- Within a bucket that is sorted, of two values one comes before the other. -/
theorem AtMost.total {v w : Value} (h : Comparable v w) : AtMost v w ∨ AtMost w v := by
  cases h with
  | ints m n => exact (Int.le_total m.toInt n.toInt).imp .ints .ints
  | floats x y =>
    rcases hLeft : x.isNaN with _ | _
    · rcases hRight : y.isNaN with _ | _
      · exact (Int.le_total x.signedUnits y.signedUnits).imp
          (fun h => .floats (.inr ⟨hRight, h⟩)) fun h => .floats (.inr ⟨hLeft, h⟩)
      · exact .inr (.floats (.inl hRight))
    · exact .inl (.floats (.inl hLeft))
  | texts s t => exact (Std.Total.total (textBytes s.toList) (textBytes t.toList)).imp .texts .texts
  | instants s t =>
    by_cases h : s.seconds < t.seconds ∨ s.seconds = t.seconds ∧ s.nanos ≤ t.nanos
    · exact .inl (.instants h)
    · exact .inr (.instants (by omega))
  | lists vs ws => exact (Nat.le_total vs.length ws.length).imp .lists .lists
  | @maps v w m n hLeft hRight =>
    exact (Nat.le_total m n).imp (.maps hLeft hRight) (.maps hRight hLeft)

end Sorting

end BotScript
