import BotScript.Proofs.Sorting.KeyOrder
import BotScript.Proofs.Sorting.Stable
import Mathlib

/-! Sorting into one list.  `sort_flat` says when sorting succeeds, and in which order the items
come then: `Before` compares two items by the bucket of their keys, within a bucket by the keys, and
by the places at which they stood where the keys do not tell. -/

namespace BotScript

/-- The place of a bucket in the order of buckets. -/
def Bucket.rank : Bucket → Nat
  | ints => 0
  | floats => 1
  | texts => 2
  | instants => 3
  | lists => 4
  | maps => 5
  | others => 6

theorem Bucket.pairwise_rank : Bucket.all.Pairwise fun b c => b.rank < c.rank := by decide

theorem Bucket.mem_all (b : Bucket) : b ∈ all := by cases b <;> decide

namespace Sorting

/-! ### What is sorted -/

/-- Whether a value is a wrapper with nothing inside. -/
def isEmptyWrapper : Value → Bool
  | .ref inner => (Value.ref inner).isNil
  | _ => false

/-- The items that are sorted: all but empty wrappers, without their wrappers. -/
def kept (items : List Value) : List Value :=
  (items.filter fun v => !isEmptyWrapper v).map fun v => v.dereference.getD .null

/-- What a list holds at a place, and a map under a key. -/
inductive HoldsUnder : Value → Value → Value → Prop
  | place {items : List Value} {i : Int64} {found : Value} (hPlace : 0 ≤ i.toInt)
      (h : items[i.toInt.toNat]? = some found) : HoldsUnder (.list items) (.int i) found
  | key {d : Dict} {k : Value} {key : Key} {found : Value} (hKey : Key.ofValue k = .ok key)
      (h : Entries.get? key d = some found) : HoldsUnder (.dict d) k found
  | name {d : TextDict} {name : String} {found : Value} (h : Entries.get? name d = some found) :
      HoldsUnder (.textDict d) (.text name) found

theorem index_eq_ok_iff {container key found : Value} : index container key = .ok found ↔
    ∃ inside under, container.dereference = some inside ∧ key.dereference = some under ∧
      HoldsUnder inside under found := by
  constructor
  · intro h
    unfold index at h
    split at h
    · rename_i items i hInside hUnder
      split at h
      · rename_i v hFound
        split at hFound
        · rename_i hPlace
          cases h
          exact ⟨_, _, hInside, hUnder, .place hPlace hFound⟩
        · exact nomatch hFound
      · exact nomatch h
    · exact nomatch h
    · rename_i d k hInside hUnder
      split at h
      · rename_i v hFound
        cases h
        exact ⟨_, _, hInside, hUnder, .name hFound⟩
      · exact nomatch h
    · rename_i d k hInside hUnder
      split at h
      · rename_i v hFound
        unfold Dict.get? at hFound
        split at hFound
        · rename_i key hKey
          cases h
          exact ⟨_, _, hInside, hUnder, .key hKey hFound⟩
        · exact nomatch hFound
      · exact nomatch h
    · exact nomatch h
    · exact nomatch h
  · rintro ⟨inside, under, hInside, hUnder, hHolds⟩
    unfold index
    rw [hInside, hUnder]
    cases hHolds with
    | place hPlace h => simp only [if_pos hPlace, h]
    | key hKey h => simp only [Dict.get?, hKey, h]
    | name h => simp only [h]

/-- The value that an item is sorted by: the item itself, or what is inside the value that it holds
under the key, which is null if there is nothing inside. -/
inductive SortedBy : Option Value → Value → Value → Prop
  | itself (item : Value) : SortedBy none item item
  | found {key item inside under found : Value} (hItem : item.dereference = some inside)
      (hKey : key.dereference = some under) (h : HoldsUnder inside under found) :
      SortedBy (some key) item (found.dereference.getD .null)

/-- What an item is sorted by, if it is found. -/
def sortKey (key : Option Value) (item : Value) : Value :=
  match key with
  | none => item
  | some k => match index item k with
    | .ok found => found.dereference.getD .null
    | .error _ => .null

theorem keep?_eq (v : Value) :
    keep? v = if isEmptyWrapper v then none else some (v.dereference.getD .null) := by
  cases v with
  | ref inner =>
    rw [keep?, isEmptyWrapper, Value.isNil]
    rcases (Value.ref inner).dereference with _ | found <;> rfl
  | _ => rfl

theorem filterMap_keep? (items : List Value) : items.filterMap keep? = kept items := by
  induction items with
  | nil => rfl
  | cons v rest ih =>
    rw [List.filterMap_cons, keep?_eq, kept, List.filter_cons]
    rcases hEmpty : isEmptyWrapper v with _ | _
    · simpa [kept] using ih
    · simpa [kept] using ih

/-- Whether an item holds something under a key, if there is a key. -/
def Indexable (key : Option Value) (item : Value) : Prop :=
  ∀ under, key = some under → ∃ found, index item under = .ok found

theorem sortedBy_iff {key : Option Value} {item v : Value} :
    SortedBy key item v ↔ Indexable key item ∧ v = sortKey key item := by
  constructor
  · intro h
    cases h with
    | itself => exact ⟨fun _ h => (nomatch h), rfl⟩
    | @found key _ _ _ found hItem hKey hHolds =>
      have hIndex : index item key = .ok found :=
        index_eq_ok_iff.mpr ⟨_, _, hItem, hKey, hHolds⟩
      refine ⟨fun under hUnder => ?_, ?_⟩
      · cases hUnder
        exact ⟨found, hIndex⟩
      · rw [sortKey, hIndex]
  · rintro ⟨hIndexable, rfl⟩
    cases key with
    | none => exact .itself item
    | some key =>
      obtain ⟨found, hIndex⟩ := hIndexable key rfl
      obtain ⟨inside, under, hItem, hKey, hHolds⟩ := index_eq_ok_iff.mp hIndex
      rw [sortKey, hIndex]
      exact .found hItem hKey hHolds

theorem exists_sortedBy_iff {key : Option Value} {item : Value} :
    (∃ v, SortedBy key item v) ↔ Indexable key item :=
  ⟨fun ⟨_, h⟩ => (sortedBy_iff.mp h).1, fun h => ⟨_, sortedBy_iff.mpr ⟨h, rfl⟩⟩⟩

theorem keyed_eq_ok_iff (key : Option Value) (item : Value) (k : Keyed) :
    keyed key item = .ok k ↔ Indexable key item ∧ k = ⟨sortKey key item, item⟩ := by
  cases key with
  | none => simp [keyed, sortKey, Indexable, eq_comm]
  | some under =>
    have hIndexable : Indexable (some under) item ↔ ∃ found, index item under = .ok found :=
      ⟨fun h => h under rfl, fun h other hOther => by cases hOther; exact h⟩
    rw [hIndexable, keyed, sortKey]
    rcases hIndex : index item under with mistake | found
    · simp [Except.map]
    · simp [Except.map, eq_comm]

theorem bind_eq_ok_iff {ε α β : Type} {x : Except ε α} {f : α → Except ε β} {b : β} :
    (x >>= f) = .ok b ↔ ∃ a, x = .ok a ∧ f a = .ok b := by
  cases x <;> simp [bind, Except.bind]

theorem mapM_keyed_eq_ok_iff (key : Option Value) (items : List Value) (ks : List Keyed) :
    items.mapM (keyed key) = .ok ks ↔ (∀ item ∈ items, Indexable key item) ∧
      ks = items.map fun item => ⟨sortKey key item, item⟩ := by
  induction items generalizing ks with
  | nil => simp [pure, Except.pure, eq_comm]
  | cons item rest ih =>
    simp only [List.mapM_cons, bind_eq_ok_iff, keyed_eq_ok_iff, ih, List.forall_mem_cons]
    constructor
    · rintro ⟨k, ⟨hFirst, rfl⟩, others, ⟨hRest, rfl⟩, hKs⟩
      cases hKs
      exact ⟨⟨hFirst, hRest⟩, rfl⟩
    · rintro ⟨⟨hFirst, hRest⟩, rfl⟩
      exact ⟨_, ⟨hFirst, rfl⟩, _, ⟨hRest, rfl⟩, rfl⟩

/-- The items with what they are sorted by. -/
def keyedItems (o : SortOptions) (items : List Value) : List Keyed :=
  (kept items).map fun item => ⟨sortKey o.key item, item⟩

theorem buckets_eq_ok_iff (o : SortOptions) (items : List Value) (lists : List (List Value)) :
    buckets o items = .ok lists ↔ (∀ item ∈ kept items, Indexable o.key item) ∧
      lists = Bucket.all.map fun b => sortBucket o.reverse b (keyedItems o items) := by
  simp only [buckets, filterMap_keep?, bind_eq_ok_iff, mapM_keyed_eq_ok_iff]
  constructor
  · rintro ⟨ks, ⟨hAll, rfl⟩, hLists⟩
    cases hLists
    exact ⟨hAll, rfl⟩
  · rintro ⟨hAll, rfl⟩
    exact ⟨_, ⟨hAll, rfl⟩, rfl⟩

/-- Sorting into one list succeeds if all items are indexable, and puts the buckets one after
another. -/
theorem sort_eq_ok_iff {o : SortOptions} (hFlat : o.subslices = false) (items out : List Value) :
    sort o items = .ok out ↔ (∀ item ∈ kept items, Indexable o.key item) ∧
      out = Bucket.all.flatMap fun b => sortBucket o.reverse b (keyedItems o items) := by
  simp only [sort, hFlat, bind_eq_ok_iff, buckets_eq_ok_iff]
  constructor
  · rintro ⟨lists, ⟨hAll, rfl⟩, hOut⟩
    cases hOut
    exact ⟨hAll, rfl⟩
  · rintro ⟨hAll, rfl⟩
    exact ⟨_, ⟨hAll, rfl⟩, rfl⟩

/-! ### Where items are put -/

/-- The order of a bucket, or the reversed order. -/
def Precedes (reverse : Bool) (v w : Value) : Prop := if reverse then AtMost w v else AtMost v w

/-- Two items of one bucket, with the keys `v` and `w` and from the places `i` and `j`, are in
order: by their keys, and by their places if the keys come in either order.  Other items are as they
stood, or turned around. -/
def InOrder (reverse : Bool) (b : Bucket) (v w : Value) (i j : Nat) : Prop :=
  if b = .others then if reverse then j < i else i < j
  else Precedes reverse v w ∧ (Precedes reverse w v → i < j)

/-- An item with the key `v` from the place `i` comes before one with the key `w` from the place
`j`: by the buckets that hold the keys, or by the order of their bucket. -/
def Before (reverse : Bool) (v w : Value) (i j : Nat) : Prop :=
  ∃ b c : Bucket, b.Holds v ∧ c.Holds w ∧
    (b.rank < c.rank ∨ b = c ∧ InOrder reverse b v w i j)

/-- Whether an item may come before another of its bucket. -/
def mayPrecede (reverse : Bool) (k l : Keyed) : Bool :=
  if reverse then compare l.key k.key != .gt else compare k.key l.key != .gt

/-- An item with its key, and the place at which it stands. -/
abbrev Placed := Keyed × Nat

/-- The items of one bucket. -/
def members (b : Bucket) (items : List Placed) : List Placed :=
  items.filter fun x => decide (Bucket.ofValue x.1.key = b)

/-- The items of one bucket in order. -/
def sortPlaced (reverse : Bool) (b : Bucket) (items : List Placed) : List Placed :=
  if b = .others then if reverse then (members b items).reverse else members b items
  else (members b items).mergeSort fun x y => mayPrecede reverse x.1 y.1

section Placement

variable (reverse : Bool) (b : Bucket)

theorem map_sortPlaced (items : List Placed) :
    (sortPlaced reverse b items).map (fun x => x.1.item) =
      sortBucket reverse b (items.map Prod.fst) := by
  have hMembers : (items.map Prod.fst).filter (fun k => decide (Bucket.ofValue k.key = b)) =
      (members b items).map Prod.fst := List.filter_map
  have hSort : ((members b items).mergeSort fun x y => mayPrecede reverse x.1 y.1).map Prod.fst =
      ((members b items).map Prod.fst).mergeSort (mayPrecede reverse) :=
    List.map_mergeSort fun _ _ _ _ => rfl
  have hItems : ∀ placed : List Placed,
      placed.map (fun x => x.1.item) = (placed.map Prod.fst).map (·.item) :=
    fun placed => (List.map_map).symm
  rw [sortBucket, hMembers, sortPlaced, hItems]
  congr 1
  by_cases hOther : b = .others
  · simp only [if_pos hOther]
    cases reverse with
    | true => exact List.map_reverse
    | false => rfl
  · simp only [if_neg hOther, hSort]
    cases reverse <;> rfl

theorem sortPlaced_perm (items : List Placed) :
    (sortPlaced reverse b items).Perm (members b items) := by
  rw [sortPlaced]
  split
  · split
    · exact List.reverse_perm _
    · exact .refl _
  · exact List.mergeSort_perm _ _

theorem mayPrecede_iff {k l : Keyed} (hSame : Bucket.ofValue k.key = Bucket.ofValue l.key)
    (hSorted : Bucket.ofValue k.key ≠ .others) :
    mayPrecede reverse k l = true ↔ Precedes reverse k.key l.key := by
  have hLE : ∀ o : Ordering, (o != .gt) = o.isLE := fun o => by cases o <;> rfl
  rw [mayPrecede, Precedes]
  cases reverse with
  | false =>
    simp only [hLE]
    exact compare_isLE_iff (comparable_of_bucket hSame hSorted)
  | true =>
    simp only [hLE]
    exact compare_isLE_iff (comparable_of_bucket hSame.symm (hSame ▸ hSorted))

theorem Precedes.trans {u v w : Value} (h1 : Precedes reverse u v) (h2 : Precedes reverse v w) :
    Precedes reverse u w := by
  rw [Precedes] at h1 h2 ⊢
  cases reverse with
  | false => exact AtMost.trans h1 h2
  | true => exact AtMost.trans h2 h1

theorem Precedes.total {v w : Value} (h : Comparable v w) :
    Precedes reverse v w ∨ Precedes reverse w v := by
  rw [Precedes, Precedes]
  cases reverse with
  | false => exact AtMost.total h
  | true => exact (AtMost.total h).symm

theorem pairwise_sortPlaced {items : List Placed} (h : items.Pairwise fun x y => x.2 < y.2) :
    (sortPlaced reverse b items).Pairwise fun x y =>
      InOrder reverse b x.1.key y.1.key x.2 y.2 := by
  have hBucket : ∀ x ∈ members b items, Bucket.ofValue x.1.key = b := by
    intro x hx
    simpa using (List.mem_filter.mp hx).2
  have hMembers : (members b items).Pairwise fun x y => x.2 < y.2 := h.filter _
  -- The other items are not compared at all, so that only their places tell.
  by_cases hOther : b = .others
  · have hTurned : (sortPlaced reverse b items).Pairwise fun x y =>
        if reverse then y.2 < x.2 else x.2 < y.2 := by
      rw [sortPlaced, if_pos hOther]
      cases reverse with
      | false => exact hMembers
      | true => exact List.pairwise_reverse.mpr hMembers
    refine hTurned.imp fun {x y} hxy => ?_
    rw [InOrder, if_pos hOther]
    exact hxy
  · have hIff : ∀ x ∈ members b items, ∀ y ∈ members b items,
        (mayPrecede reverse x.1 y.1 = true ↔ Precedes reverse x.1.key y.1.key) := by
      intro x hx y hy
      exact mayPrecede_iff reverse ((hBucket x hx).trans (hBucket y hy).symm)
        (by rw [hBucket x hx]; exact hOther)
    have hSorted : (sortPlaced reverse b items).Pairwise fun x y =>
        mayPrecede reverse x.1 y.1 = true ∧ (mayPrecede reverse y.1 x.1 = true → x.2 < y.2) := by
      rw [sortPlaced, if_neg hOther]
      refine pairwise_mergeSort_of_mem (fun x hx y hy z hz => ?_) (fun x hx y hy => ?_) hMembers
      · rw [hIff x hx y hy, hIff y hy z hz, hIff x hx z hz]
        exact Precedes.trans reverse
      · rw [hIff x hx y hy, hIff y hy x hx]
        exact Precedes.total reverse (comparable_of_bucket
          ((hBucket x hx).trans (hBucket y hy).symm) (by rw [hBucket x hx]; exact hOther))
    refine hSorted.imp_of_mem fun {x y} hx hy hxy => ?_
    rw [(sortPlaced_perm reverse b items).mem_iff] at hx hy
    rw [hIff x hx y hy, hIff y hy x hx] at hxy
    rw [InOrder, if_neg hOther]
    exact hxy

end Placement

/-- The buckets of a list hold its items that belong to one of them. -/
theorem flatMap_members_perm (items : List Placed) {bs : List Bucket} (hBs : bs.Nodup) :
    (bs.flatMap fun b => members b items).Perm
      (items.filter fun x => decide (Bucket.ofValue x.1.key ∈ bs)) := by
  induction bs with
  | nil => simp
  | cons b bs ih =>
    obtain ⟨hNew, hRest⟩ := List.nodup_cons.mp hBs
    let all := items.filter fun x => decide (Bucket.ofValue x.1.key ∈ b :: bs)
    have hHere : all.filter (fun x => decide (Bucket.ofValue x.1.key = b)) = members b items := by
      rw [List.filter_filter, members]
      exact List.filter_congr fun x _ => by simp +contextual
    have hThere : all.filter (fun x => !decide (Bucket.ofValue x.1.key = b)) =
        items.filter fun x => decide (Bucket.ofValue x.1.key ∈ bs) := by
      rw [List.filter_filter]
      refine List.filter_congr fun x _ => ?_
      by_cases hEq : Bucket.ofValue x.1.key = b
      · simp [hEq, hNew]
      · simp [hEq]
    have hSplit := List.filter_append_perm (fun x => decide (Bucket.ofValue x.1.key = b)) all
    rw [hHere, hThere] at hSplit
    rw [List.flatMap_cons]
    exact ((ih hRest).append_left _).trans hSplit

/-! ### The whole order -/

/-- The items that are sorted, bucket by bucket. -/
def flatPlaced (reverse : Bool) (items : List Placed) : List Placed :=
  Bucket.all.flatMap fun b => sortPlaced reverse b items

theorem flatPlaced_perm (reverse : Bool) (items : List Placed) :
    (flatPlaced reverse items).Perm items := by
  have hBuckets := List.Perm.flatMap_left Bucket.all
    fun b _ => sortPlaced_perm reverse b items
  have hAll : items.filter (fun x => decide (Bucket.ofValue x.1.key ∈ Bucket.all)) = items :=
    List.filter_eq_self.mpr fun x _ => decide_eq_true (Bucket.mem_all _)
  have hMembers := flatMap_members_perm items (by decide : Bucket.all.Nodup)
  rw [hAll] at hMembers
  exact hBuckets.trans hMembers

theorem map_flatPlaced (reverse : Bool) (items : List Placed) :
    (flatPlaced reverse items).map (fun x => x.1.item) =
      Bucket.all.flatMap fun b => sortBucket reverse b (items.map Prod.fst) := by
  rw [flatPlaced, List.map_flatMap]
  simp only [map_sortPlaced]

theorem pairwise_flatPlaced (reverse : Bool) {items : List Placed}
    (h : items.Pairwise fun x y => x.2 < y.2) :
    (flatPlaced reverse items).Pairwise fun x y => Before reverse x.1.key y.1.key x.2 y.2 := by
  have hBucket : ∀ b, ∀ x ∈ sortPlaced reverse b items, b.Holds x.1.key := by
    intro b x hx
    rw [(sortPlaced_perm reverse b items).mem_iff] at hx
    exact Bucket.ofValue_eq_iff.mp (of_decide_eq_true (List.mem_filter.mp hx).2)
  refine List.pairwise_flatMap.mpr ⟨fun b _ => ?_, ?_⟩
  · refine (pairwise_sortPlaced reverse b h).imp_of_mem fun {x y} hx hy hxy => ?_
    exact ⟨b, b, hBucket b x hx, hBucket b y hy, .inr ⟨rfl, hxy⟩⟩
  · refine Bucket.pairwise_rank.imp fun {b c} hRank x hx y hy => ?_
    exact ⟨b, c, hBucket b x hx, hBucket c y hy, .inl hRank⟩

/-- The kept item at a place. -/
def itemAt (items : List Value) (i : Nat) : Value := (kept items).getD i .null

theorem eq_of_mem_zipIdx {o : SortOptions} {items : List Value} {x : Placed}
    (h : x ∈ (keyedItems o items).zipIdx) :
    x.1 = ⟨sortKey o.key (itemAt items x.2), itemAt items x.2⟩ := by
  have hGet := List.mem_zipIdx_iff_getElem?.mp h
  rw [keyedItems, List.getElem?_map, Option.map_eq_some_iff] at hGet
  obtain ⟨item, hItem, hKey⟩ := hGet
  rw [itemAt, List.getD_eq_getElem?_getD, hItem]
  exact hKey.symm

/-- Sorting into one list succeeds if and only if there is something to sort each kept item by.  The
kept items are then all there, and any two of them come in the order of their buckets, of what they
are sorted by, and of their places. -/
theorem sort_flat {o : SortOptions} (hFlat : o.subslices = false) (items : List Value) :
    ((∃ out, sort o items = .ok out) ↔ ∀ item ∈ kept items, ∃ v, SortedBy o.key item v) ∧
      ∀ out, sort o items = .ok out → out.Perm (kept items) ∧
        ∃ (order : List Nat) (keys : Nat → Value), order.Perm (List.range (kept items).length) ∧
          out = order.map (itemAt items) ∧
          (∀ i ∈ order, SortedBy o.key (itemAt items i) (keys i)) ∧
          order.Pairwise fun i j => Before o.reverse (keys i) (keys j) i j := by
  refine ⟨?_, fun out hOut => ?_⟩
  · simp only [sort_eq_ok_iff hFlat, exists_sortedBy_iff]
    exact ⟨fun ⟨_, hAll, _⟩ => hAll, fun hAll => ⟨_, hAll, rfl⟩⟩
  obtain ⟨hAll, hOut⟩ := (sort_eq_ok_iff hFlat items out).mp hOut
  -- Each item carries its place along, and the order is what the places then are.
  let placed : List Placed := (keyedItems o items).zipIdx
  let flat := flatPlaced o.reverse placed
  have hPerm : flat.Perm placed := flatPlaced_perm _ _
  have hPlaced : ∀ x ∈ flat, x.1 = ⟨sortKey o.key (itemAt items x.2), itemAt items x.2⟩ :=
    fun x hx => eq_of_mem_zipIdx (hPerm.mem_iff.mp hx)
  have hPlaces : placed.map Prod.snd = List.range (kept items).length := by
    simp [placed, keyedItems, List.range_eq_range']
  have hItems : out = flat.map fun x => x.1.item := by
    rw [map_flatPlaced, List.zipIdx_map_fst]
    exact hOut
  have hOrder : out = (flat.map Prod.snd).map (itemAt items) := by
    rw [hItems, List.map_map]
    exact List.map_congr_left fun x hx => by rw [hPlaced x hx, Function.comp_apply]
  have hRange : (flat.map Prod.snd).Perm (List.range (kept items).length) :=
    hPlaces ▸ hPerm.map Prod.snd
  refine ⟨?_, flat.map Prod.snd, fun i => sortKey o.key (itemAt items i), hRange, hOrder,
    fun i hi => ?_, ?_⟩
  · rw [hOrder]
    have hEach : (List.range (kept items).length).map (itemAt items) = kept items :=
      List.ext_getElem (by simp) fun i _ hLt => by simp [itemAt, hLt]
    exact hEach ▸ hRange.map (itemAt items)
  · refine sortedBy_iff.mpr ⟨hAll _ ?_, rfl⟩
    rw [hRange.mem_iff, List.mem_range] at hi
    rw [itemAt, List.getD_eq_getElem?_getD, List.getElem?_eq_getElem hi]
    exact List.getElem_mem hi
  · have hSorted : placed.Pairwise fun x y => x.2 < y.2 :=
      List.pairwise_map.mp (hPlaces ▸ List.pairwise_lt_range)
    refine List.pairwise_map.mpr
      ((pairwise_flatPlaced o.reverse hSorted).imp_of_mem fun {x y} hx hy hxy => ?_)
    rw [hPlaced x hx, hPlaced y hy] at hxy
    exact hxy

/-- Records in reverse order of their numbers, two with the same number as they stood, and after
them one with a text and one with nothing. -/
theorem sort_flat_records_reversed :
    let o : SortOptions := ⟨true, false, false, some (.text "n")⟩
    let record (id : Int64) (n : Value) : Value := .textDict [("id", .int id), ("n", n)]
    let items : List Value :=
      [record 1 (.int 2), .ref none, .ref (some (record 2 .null)), record 3 (.int 5),
        record 4 (.text "many"), record 5 (.int 2)]
    let sorted : List Value :=
      [record 3 (.int 5), record 1 (.int 2), record 5 (.int 2), record 4 (.text "many"),
        record 2 .null]
    o.subslices = false ∧ sort o items = .ok sorted ∧ sorted.Perm (kept items) ∧
      ∃ (order : List Nat) (keys : Nat → Value), order.Perm [0, 1, 2, 3, 4] ∧
        sorted = order.map (itemAt items) ∧
        (∀ i ∈ order, SortedBy o.key (itemAt items i) (keys i)) ∧
        order.Pairwise fun i j => Before true (keys i) (keys j) i j := by
  intro o record items sorted
  have hSort : sort o items = .ok sorted := by cbv
  obtain ⟨hPerm, hOrder⟩ := (sort_flat (o := o) rfl items).2 sorted hSort
  exact ⟨rfl, hSort, hPerm, hOrder⟩

end Sorting

end BotScript
