import BotScript.Proofs.Sorting.Shapes
import Mathlib

/-! Sorting a list that is sorted already.  Its items are kept as they are, each falls into the
bucket that it came from, and a bucket that is in order stays in order.  Only the other items are
turned around once more if the order is reversed: `sort_twice`. -/

namespace BotScript

/-- The buckets with an order of their own, which are all but the last. -/
def Bucket.ordered : List Bucket := Bucket.all.filter fun b => decide (b ≠ .others)

namespace Sorting

/-! ### What is kept once is kept again -/

/-- Whether a value has no wrappers to lose. -/
def IsBare (v : Value) : Prop := v.dereference.getD .null = v ∧ isEmptyWrapper v = false

theorem isBare_inside (v : Value) : IsBare (v.dereference.getD .null) := by
  rcases hInside : v.dereference with _ | inner
  · exact ⟨rfl, rfl⟩
  · have hAgain : inner.dereference = some inner := Value.dereference_idem hInside
    refine ⟨by simp [hAgain], ?_⟩
    cases inner with
    | ref wrapped => exact absurd hInside (v.dereference_ne_ref wrapped)
    | _ => rfl

theorem isBare_of_mem_kept {items : List Value} {v : Value} (h : v ∈ kept items) : IsBare v := by
  obtain ⟨item, -, rfl⟩ := List.mem_map.mp h
  exact isBare_inside item

theorem kept_of_bare {items : List Value} (h : ∀ v ∈ items, IsBare v) : kept items = items := by
  have hAll : (items.filter fun v => !isEmptyWrapper v) = items := by
    refine List.filter_eq_self.mpr fun v hv => ?_
    rw [(h v hv).2]
    rfl
  rw [kept, hAll]
  calc items.map (fun v => v.dereference.getD .null)
      = items.map id := List.map_congr_left fun v hv => (h v hv).1
    _ = items := List.map_id items

/-! ### Buckets of the output -/

section Buckets

variable {key : Option Value}

theorem mem_inBucket {b : Bucket} {items : List Value} {v : Value} :
    v ∈ inBucket key b items ↔ v ∈ items ∧ bucketOf key v = b := by
  simp [inBucket]

theorem inBucket_self {b : Bucket} {items : List Value} (h : ∀ v ∈ items, bucketOf key v = b) :
    inBucket key b items = items :=
  List.filter_eq_self.mpr fun v hv => decide_eq_true (h v hv)

theorem inBucket_other {b c : Bucket} (hne : b ≠ c) {items : List Value}
    (h : ∀ v ∈ items, bucketOf key v = b) : inBucket key c items = [] := by
  refine List.filter_eq_nil_iff.mpr fun v hv => ?_
  rw [h v hv]
  simpa using hne

/-- Of lists that are put together, one for each bucket, the items of a bucket are its own list. -/
theorem inBucket_flatMap {part : Bucket → List Value}
    (hPart : ∀ b, ∀ v ∈ part b, bucketOf key v = b) {bs : List Bucket} (hNodup : bs.Nodup)
    {b : Bucket} (hb : b ∈ bs) : inBucket key b (bs.flatMap part) = part b := by
  have hAppend : ∀ xs ys, inBucket key b (xs ++ ys) = inBucket key b xs ++ inBucket key b ys :=
    fun xs ys => List.filter_append xs ys
  induction bs with
  | nil => exact absurd hb List.not_mem_nil
  | cons c rest ih =>
    obtain ⟨hNew, hRest⟩ := List.nodup_cons.mp hNodup
    rw [List.flatMap_cons, hAppend]
    rcases List.mem_cons.mp hb with rfl | hLater
    · have hNone : inBucket key b (rest.flatMap part) = [] := by
        refine List.filter_eq_nil_iff.mpr fun v hv => ?_
        obtain ⟨c, hc, hvc⟩ := List.mem_flatMap.mp hv
        have hne : c ≠ b := fun heq => hNew (heq ▸ hc)
        rw [hPart c v hvc]
        simpa using hne
      rw [hNone, List.append_nil]
      exact inBucket_self (hPart b)
    · have hne : c ≠ b := fun heq => hNew (heq ▸ hLater)
      rw [inBucket_other hne (hPart c), List.nil_append]
      exact ih hRest hLater

end Buckets

/-! ### Sorting a bucket again -/

section Bucket

variable (o : SortOptions) {b : Bucket} {items : List Value}

theorem pairwise_mergeSort_items (hSorted : b ≠ .others)
    (hItems : ∀ v ∈ items, bucketOf o.key v = b) :
    (items.mergeSort (itemMayPrecede o)).Pairwise fun v w => itemMayPrecede o v w = true := by
  have hIff : ∀ v ∈ items, ∀ w ∈ items, (itemMayPrecede o v w = true ↔
      Precedes o.reverse (sortKey o.key v) (sortKey o.key w)) := by
    intro v hv w hw
    exact mayPrecede_iff o.reverse ((hItems v hv).trans (hItems w hw).symm)
      fun hOther => hSorted ((hItems v hv).symm.trans hOther)
  have hPlain : items.Pairwise fun _ _ => True := List.pairwise_of_forall fun _ _ => trivial
  refine (pairwise_mergeSort_of_mem (fun u hu v hv w hw => ?_) (fun v hv w hw => ?_) hPlain).imp
    fun h => h.1
  · rw [hIff u hu v hv, hIff v hv w hw, hIff u hu w hw]
    exact Precedes.trans o.reverse
  · rw [hIff v hv w hw, hIff w hw v hv]
    have hSame : bucketOf o.key v = bucketOf o.key w := (hItems v hv).trans (hItems w hw).symm
    refine Precedes.total o.reverse (comparable_of_bucket hSame ?_)
    exact fun hOther => hSorted ((hItems v hv).symm.trans hOther)

/-- A bucket that is sorted by its order stays as it is. -/
theorem sortItems_twice (hSorted : b ≠ .others) (hItems : ∀ v ∈ items, bucketOf o.key v = b) :
    sortItems o b (sortItems o b items) = sortItems o b items := by
  simp only [sortItems, if_neg hSorted]
  exact List.mergeSort_of_pairwise (pairwise_mergeSort_items o hSorted hItems)

theorem sortItems_others (items : List Value) :
    sortItems o .others items = if o.reverse then items.reverse else items := rfl

/-- The other items are back in their order after they were sorted twice. -/
theorem sortItems_others_twice (items : List Value) :
    sortItems o .others (sortItems o .others items) = items := by
  rw [sortItems_others, sortItems_others]
  cases o.reverse with
  | false => rfl
  | true => exact List.reverse_reverse items

end Bucket

/-! ### Sorting twice -/

section Twice

variable {o : SortOptions} {items out : List Value}

/-- What the items of a bucket become. -/
def sortedBucket (o : SortOptions) (items : List Value) (b : Bucket) : List Value :=
  sortItems o b (inBucket o.key b (kept items))

theorem bucketOf_of_mem_sortedBucket {b : Bucket} {v : Value} (h : v ∈ sortedBucket o items b) :
    bucketOf o.key v = b :=
  (mem_inBucket.mp ((sortItems_perm o b _).mem_iff.mp h)).2

theorem mem_kept_of_mem_sortedBucket {b : Bucket} {v : Value} (h : v ∈ sortedBucket o items b) :
    v ∈ kept items :=
  (mem_inBucket.mp ((sortItems_perm o b _).mem_iff.mp h)).1

theorem sort_eq_ok (hFlat : o.subslices = false) :
    sort o items = .ok out ↔ (∀ item ∈ kept items, Indexable o.key item) ∧
      out = Bucket.ordered.flatMap (sortedBucket o items) ++ sortedBucket o items .others := by
  have hAll : Bucket.all = Bucket.ordered ++ [.others] := by decide
  rw [sort_eq_ok_iff hFlat, hAll, List.flatMap_append, List.flatMap_singleton]
  simp only [sortBucket_keyedItems]
  rfl

/-- The output of a sort is kept as it is, and each of its items is back in the bucket that it came
from. -/
theorem inBucket_kept_output (h : sort o items = .ok out) (hFlat : o.subslices = false)
    (b : Bucket) : kept out = out ∧ inBucket o.key b (kept out) = sortedBucket o items b := by
  obtain ⟨-, hOut⟩ := (sort_eq_ok_iff hFlat items out).mp h
  simp only [sortBucket_keyedItems] at hOut
  have hBare : ∀ v ∈ out, IsBare v := by
    intro v hv
    rw [hOut] at hv
    obtain ⟨c, -, hvc⟩ := List.mem_flatMap.mp hv
    exact isBare_of_mem_kept (mem_kept_of_mem_sortedBucket hvc)
  have hKept := kept_of_bare hBare
  have hPart : ∀ c, ∀ v ∈ sortedBucket o items c, bucketOf o.key v = c :=
    fun c v hv => bucketOf_of_mem_sortedBucket hv
  refine ⟨hKept, ?_⟩
  rw [hKept, hOut]
  exact inBucket_flatMap hPart (by decide) b.mem_all

/-- Sorting the output of a sort succeeds.  The buckets with an order of their own stay as they are,
and the other items come in the order in which they stood before both sorts. -/
theorem sort_output (hFlat : o.subslices = false) (h : sort o items = .ok out) :
    sort o out = .ok (Bucket.ordered.flatMap (sortedBucket o items) ++
      inBucket o.key .others (kept items)) := by
  obtain ⟨hAll, hOut⟩ := (sort_eq_ok hFlat).mp h
  have hBucket : ∀ b, sortedBucket o out b = sortItems o b (sortedBucket o items b) := by
    intro b
    rw [sortedBucket, (inBucket_kept_output h hFlat b).2]
  refine (sort_eq_ok hFlat).mpr ⟨fun item hItem => hAll item ?_, ?_⟩
  · rw [(inBucket_kept_output h hFlat .others).1, hOut] at hItem
    rcases List.mem_append.mp hItem with hOrdered | hOther
    · obtain ⟨b, -, hb⟩ := List.mem_flatMap.mp hOrdered
      exact mem_kept_of_mem_sortedBucket hb
    · exact mem_kept_of_mem_sortedBucket hOther
  · have hOthers : sortedBucket o out .others = inBucket o.key .others (kept items) := by
      rw [hBucket]
      exact sortItems_others_twice o _
    have hOrdered : Bucket.ordered.flatMap (sortedBucket o out) =
        Bucket.ordered.flatMap (sortedBucket o items) := by
      refine List.flatMap_congr fun b hb => ?_
      have hSorted : b ≠ .others := of_decide_eq_true (List.mem_filter.mp hb).2
      rw [hBucket]
      exact sortItems_twice o hSorted fun v hv => (mem_inBucket.mp hv).2
    rw [hOrdered, hOthers]

/-- Sorting a sorted list with the same options succeeds.  If the order is not reversed, the list
stays as it is.  If it is, the items of the six buckets with an order of their own stay as they are,
and the other items after them are back in the order in which they stood before the first sort. -/
theorem sort_twice (hFlat : o.subslices = false) (h : sort o items = .ok out) :
    (o.reverse = false → sort o out = .ok out) ∧
    (o.reverse = true → ∃ ordered, (∀ item ∈ ordered, bucketOf o.key item ≠ .others) ∧
      out = ordered ++ (inBucket o.key .others (kept items)).reverse ∧
      sort o out = .ok (ordered ++ inBucket o.key .others (kept items))) := by
  have hAgain := sort_output hFlat h
  obtain ⟨-, hOut⟩ := (sort_eq_ok hFlat).mp h
  constructor
  · intro hForward
    have hOthers : sortedBucket o items .others = inBucket o.key .others (kept items) := by
      rw [sortedBucket, sortItems_others, hForward]
      rfl
    rw [hAgain, ← hOthers, ← hOut]
  · intro hReverse
    have hOthers : sortedBucket o items .others =
        (inBucket o.key .others (kept items)).reverse := by
      rw [sortedBucket, sortItems_others, hReverse]
      rfl
    rw [hOthers] at hOut
    refine ⟨_, fun item hItem => ?_, hOut, hAgain⟩
    obtain ⟨b, hb, hMem⟩ := List.mem_flatMap.mp hItem
    rw [bucketOf_of_mem_sortedBucket hMem]
    exact of_decide_eq_true (List.mem_filter.mp hb).2

end Twice

/-- Integers, one in a wrapper, floats with a NaN among them, and two other values. -/
def assorted : List Value :=
  [.null, .float ⟨0x7FF8000000000000⟩, .int 1, .bool true, .float ⟨0x3FF0000000000000⟩,
    .boxed (.int 2)]

theorem sort_twice_assorted :
    let o : SortOptions := ⟨true, false, false, none⟩
    let numbers : List Value :=
      [.int 2, .int 1, .float ⟨0x3FF0000000000000⟩, .float ⟨0x7FF8000000000000⟩]
    sort o assorted = .ok (numbers ++ [.bool true, .null]) ∧
      sort o (numbers ++ [.bool true, .null]) = .ok (numbers ++ [.null, .bool true]) := by
  intro o numbers
  have hSort : sort o assorted = .ok (numbers ++ [.bool true, .null]) := by cbv
  have hOthers : inBucket none .others (kept assorted) = [.null, .bool true] := rfl
  obtain ⟨-, hReversed⟩ := sort_twice (o := o) rfl hSort
  obtain ⟨ordered, -, hOut, hAgain⟩ := hReversed rfl
  rw [hOthers] at hOut hAgain
  have hSame : numbers = ordered := List.append_cancel_right hOut
  rw [← hSame] at hAgain
  exact ⟨hSort, hAgain⟩

end Sorting

end BotScript
