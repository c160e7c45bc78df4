import BotScript.Containers
import BotScript.Proofs.Safety

/-! The order of keys.  Keys of different kinds are ordered by kind.  Within a kind the order is
that of a number, of two numbers one after the other, or of a text, so that all keys are ordered by
four coordinates; this makes the order total, and tells any two different keys apart.  Values in
which every map has its keys in this order are well formed. -/

namespace BotScript

namespace Key

/-- What keys of one kind are ordered by first, if they are no texts. -/
def number : Key → Int
  | bool b => b.toNat
  | int n => n.toInt
  | float x => x.totalPlace
  | text _ => 0
  | duration d => d.nanos
  | instant t => t.seconds

/-- What instants of one second are ordered by. -/
def fine : Key → Nat
  | instant t => t.nanos
  | _ => 0

/-- What texts are ordered by. -/
def spelling : Key → String
  | text s => s
  | _ => ""

/-- The order by kind, then by numbers, and then by text. -/
def compareCoordinates : Key → Key → Ordering :=
  compareLex (compareOn rank) (compareLex (compareOn number)
    (compareLex (compareOn fine) (compareOn spelling)))

theorem compare_eq_coordinates (k l : Key) : Ord.compare k l = compareCoordinates k l := by
  show k.compare l = _
  simp only [compareCoordinates, compareLex, compareOn]
  -- Keys of different kinds differ in the first coordinate already.
  cases k with
  | bool a =>
    cases l with
    | bool b => cases a <;> cases b <;> rfl
    | _ => rfl
  | int m =>
    cases l with
    | int n => simp [compare, rank, number, fine, spelling]
    | _ => rfl
  | float x =>
    cases l with
    | float y => simp [compare, rank, number, fine, spelling]
    | _ => rfl
  | text s =>
    cases l with
    | text t => simp [compare, rank, number, fine, spelling]
    | _ => rfl
  | duration d =>
    cases l with
    | duration e => simp [compare, rank, number, fine, spelling]
    | _ => rfl
  | instant s =>
    cases l with
    | instant t => simp [compare, Instant.compare, rank, number, fine, spelling]
    | _ => rfl

instance : Std.TransOrd Key where
  eq_swap := by
    intro k l
    rw [compare_eq_coordinates, compare_eq_coordinates, compareCoordinates]
    exact Std.OrientedCmp.eq_swap
  isLE_trans := by
    intro k l m hkl hlm
    rw [compare_eq_coordinates, compareCoordinates] at *
    exact Std.TransCmp.isLE_trans hkl hlm

theorem eq_of_coordinates {k l : Key} (hRank : k.rank = l.rank) (hNumber : k.number = l.number)
    (hFine : k.fine = l.fine) (hSpelling : k.spelling = l.spelling) : k = l := by
  cases k with
  | bool a =>
    cases l with
    | bool b => cases a <;> cases b <;> simp [number] at hNumber ⊢
    | _ => exact nomatch hRank
  | int m =>
    cases l with
    | int n => rw [Int64.toInt_inj.mp hNumber]
    | _ => exact nomatch hRank
  | float x =>
    cases l with
    | float y => rw [Binary64.totalPlace_injective hNumber]
    | _ => exact nomatch hRank
  | text s =>
    cases l with
    | text t => exact congrArg text hSpelling
    | _ => exact nomatch hRank
  | duration d =>
    cases l with
    | duration e =>
      cases d
      cases e
      cases hNumber
      rfl
    | _ => exact nomatch hRank
  | instant s =>
    cases l with
    | instant t =>
      cases s
      cases t
      cases hNumber
      cases hFine
      rfl
    | _ => exact nomatch hRank

instance : Std.LawfulEqOrd Key where
  compare_self := by
    intro k
    rw [compare_eq_coordinates, compareCoordinates]
    exact Std.ReflCmp.compare_self
  eq_of_compare := by
    intro k l h
    rw [compare_eq_coordinates] at h
    simp only [compareCoordinates, compareLex_eq_eq, compareOn, Std.compare_eq_iff_eq] at h
    obtain ⟨hRank, hNumber, hFine, hSpelling⟩ := h
    exact eq_of_coordinates hRank hNumber hFine hSpelling

end Key

namespace Value

/-- The entries of every map in the value, at whatever depth, are in ascending order of keys. -/
structure WellFormed (v : Value) : Prop where
  dict : ∀ level d, Safety.Place .all v level (.dict d) → Entries.Ascending d
  textDict : ∀ level d, Safety.Place .all v level (.textDict d) → Entries.Ascending d

/-- In a value that is no list, map or wrapper lies only the value itself. -/
theorem eq_of_place_of_simple {layers : Safety.Layers} {v u : Value} {level : Nat}
    (h : v.kind ∉ [Kind.list, .map, .ref]) (hPlace : Safety.Place layers v level u) : u = v := by
  cases hPlace with
  | here => rfl
  | _ => simp [kind] at h

theorem WellFormed.of_simple {v : Value} (h : v.kind ∉ [Kind.list, .map, .ref]) :
    v.WellFormed := by
  constructor
  · intro level d hPlace
    rw [← eq_of_place_of_simple h hPlace] at h
    simp [kind] at h
  · intro level d hPlace
    rw [← eq_of_place_of_simple h hPlace] at h
    simp [kind] at h

theorem WellFormed.inRef {v : Value} (h : v.WellFormed) : (ref (some v)).WellFormed := by
  constructor
  · intro level d hPlace
    cases hPlace with
    | inRef hPlace => exact h.dict level d hPlace
  · intro level d hPlace
    cases hPlace with
    | inRef hPlace => exact h.textDict level d hPlace

theorem WellFormed.inList {items : List Value} (h : ∀ v ∈ items, v.WellFormed) :
    (list items).WellFormed := by
  constructor
  · intro level d hPlace
    cases hPlace with
    | inList _ hMem hPlace => exact (h _ hMem).dict level d hPlace
  · intro level d hPlace
    cases hPlace with
    | inList _ hMem hPlace => exact (h _ hMem).textDict level d hPlace

theorem WellFormed.inDict {entries : Dict} (hOrder : Entries.Ascending entries)
    (h : ∀ e ∈ entries, e.2.WellFormed) : (Value.dict entries).WellFormed := by
  constructor
  · intro level d hPlace
    cases hPlace with
    | here => exact hOrder
    | inDict _ hMem hPlace => exact (h _ hMem).dict _ d hPlace
  · intro level d hPlace
    cases hPlace with
    | inDict _ hMem hPlace => exact (h _ hMem).textDict _ d hPlace

theorem WellFormed.inTextDict {entries : TextDict} (hOrder : Entries.Ascending entries)
    (h : ∀ e ∈ entries, e.2.WellFormed) : (Value.textDict entries).WellFormed := by
  constructor
  · intro level d hPlace
    cases hPlace with
    | inTextDict _ hMem hPlace => exact (h _ hMem).dict _ d hPlace
  · intro level d hPlace
    cases hPlace with
    | here => exact hOrder
    | inTextDict _ hMem hPlace => exact (h _ hMem).textDict _ d hPlace

end Value

end BotScript
