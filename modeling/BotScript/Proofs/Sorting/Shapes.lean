import BotScript.Proofs.Sorting.Flat

/-! The shapes in which sorted items are given: one list, the list of all seven buckets, and the
list of the buckets in which there is something.  `sort_shapes` says that the options for them
decide about nothing else: all shapes are made from the same seven buckets, or none is made at
all. -/

namespace BotScript

theorem Bucket.getElem?_all (b : Bucket) : all[b.rank]? = some b := by cases b <;> rfl

namespace Sorting

/-- The bucket that an item is put into. -/
def bucketOf (key : Option Value) (item : Value) : Bucket := Bucket.ofValue (sortKey key item)

/-- Whether a bucket holds what an item is sorted by. -/
def BelongsTo (key : Option Value) (b : Bucket) (item : Value) : Prop :=
  ∃ v, SortedBy key item v ∧ b.Holds v

theorem belongsTo_iff {key : Option Value} {b : Bucket} {item : Value} :
    BelongsTo key b item ↔ Indexable key item ∧ bucketOf key item = b := by
  constructor
  · rintro ⟨v, hSorted, hHolds⟩
    obtain ⟨hIndexable, rfl⟩ := sortedBy_iff.mp hSorted
    exact ⟨hIndexable, Bucket.ofValue_eq_iff.mpr hHolds⟩
  · rintro ⟨hIndexable, hBucket⟩
    exact ⟨_, sortedBy_iff.mpr ⟨hIndexable, rfl⟩, Bucket.ofValue_eq_iff.mp hBucket⟩

theorem toBool_keyed_iff {key : Option Value} {item : Value} :
    (keyed key item).toBool = true ↔ Indexable key item := by
  have hOk := keyed_eq_ok_iff key item
  rcases hKeyed : keyed key item with mistake | k
  · rw [hKeyed] at hOk
    exact iff_of_false Bool.false_ne_true fun h => nomatch (hOk _).mpr ⟨h, rfl⟩
  · rw [hKeyed] at hOk
    exact iff_of_true rfl ((hOk k).mp rfl).1

instance (key : Option Value) (b : Bucket) (item : Value) : Decidable (BelongsTo key b item) :=
  decidable_of_iff ((keyed key item).toBool = true ∧ bucketOf key item = b)
    (by rw [toBool_keyed_iff, belongsTo_iff])

/-- The items of one bucket, in the order in which they stand. -/
def inBucket (key : Option Value) (b : Bucket) (items : List Value) : List Value :=
  items.filter fun item => decide (bucketOf key item = b)

/-- Whether an item may come before another of its bucket. -/
def itemMayPrecede (o : SortOptions) (v w : Value) : Bool :=
  mayPrecede o.reverse ⟨sortKey o.key v, v⟩ ⟨sortKey o.key w, w⟩

/-- The items of a bucket in order. -/
def sortItems (o : SortOptions) (b : Bucket) (items : List Value) : List Value :=
  if b = .others then if o.reverse then items.reverse else items
  else items.mergeSort (itemMayPrecede o)

theorem sortItems_perm (o : SortOptions) (b : Bucket) (items : List Value) :
    (sortItems o b items).Perm items := by
  unfold sortItems
  split
  · split
    · exact List.reverse_perm items
    · exact .refl items
  · exact List.mergeSort_perm items (itemMayPrecede o)

/-- Items and the items with their keys are put into the same order. -/
theorem sortBucket_keyedItems (o : SortOptions) (b : Bucket) (items : List Value) :
    sortBucket o.reverse b (keyedItems o items) =
      sortItems o b (inBucket o.key b (kept items)) := by
  let withKey : Value → Keyed := fun item => ⟨sortKey o.key item, item⟩
  have hMembers : (keyedItems o items).filter (fun k => decide (Bucket.ofValue k.key = b)) =
      (inBucket o.key b (kept items)).map withKey := List.filter_map
  have hSort : ((inBucket o.key b (kept items)).map withKey).mergeSort (mayPrecede o.reverse) =
      ((inBucket o.key b (kept items)).mergeSort (itemMayPrecede o)).map withKey :=
    (List.map_mergeSort (f := withKey) (r := itemMayPrecede o) fun _ _ _ _ => rfl).symm
  have hItems : ∀ members : List Value, (members.map withKey).map (·.item) = members := by
    intro members
    rw [List.map_map]
    exact List.map_id members
  rw [sortBucket, hMembers, sortItems]
  by_cases hOther : b = .others
  · simp only [if_pos hOther]
    cases o.reverse with
    | false => exact hItems _
    | true =>
      show List.map _ (List.map withKey _).reverse = _
      rw [← List.map_reverse]
      exact hItems _
  · simp only [if_neg hOther]
    rw [← hItems (List.mergeSort _ _), ← hSort]
    cases o.reverse <;> rfl

/-- Sorting the same items into any of the shapes fails with the same mistake, or it makes the
shapes of the same seven lists: all items in a row, the seven lists themselves, or those of them
that are not empty.  The lists are the buckets in their order, each with the items that belong to
it. -/
theorem sort_shapes (reverse : Bool) (key : Option Value) (items : List Value) :
    (∃ mistake, ∀ subslices emptyslices,
      sort ⟨reverse, subslices, emptyslices, key⟩ items = .error mistake) ∨
    ∃ lists : List (List Value), lists.length = 7 ∧
      (∀ b : Bucket, ∃ members, lists[b.rank]? = some members ∧
        members.Perm ((kept items).filter fun item => decide (BelongsTo key b item))) ∧
      (∀ emptyslices, sort ⟨reverse, false, emptyslices, key⟩ items = .ok lists.flatten) ∧
      sort ⟨reverse, true, true, key⟩ items = .ok (lists.map .list) ∧
      sort ⟨reverse, true, false, key⟩ items =
        .ok ((lists.filter fun members => !members.isEmpty).map .list) ∧
      (lists.filter fun members => !members.isEmpty).flatten = lists.flatten := by
  let o : SortOptions := ⟨reverse, false, false, key⟩
  have hSame : ∀ subslices emptyslices,
      buckets ⟨reverse, subslices, emptyslices, key⟩ items = buckets o items := fun _ _ => rfl
  rcases hBuckets : buckets o items with mistake | lists
  · left
    refine ⟨mistake, fun subslices emptyslices => ?_⟩
    rw [sort, hSame, hBuckets]
    rfl
  · right
    obtain ⟨hAll, hLists⟩ := (buckets_eq_ok_iff o items lists).mp hBuckets
    have hMembers : ∀ b, ((kept items).filter fun item => decide (BelongsTo key b item)) =
        inBucket key b (kept items) := by
      intro b
      refine List.filter_congr fun item hItem => decide_eq_decide.mpr ?_
      rw [belongsTo_iff, and_iff_right (hAll item hItem)]
    refine ⟨lists, ?_, fun b => ?_, fun emptyslices => ?_, ?_, ?_, ?_⟩
    · rw [hLists, List.length_map]
      rfl
    · refine ⟨sortItems o b (inBucket key b (kept items)), ?_, hMembers b ▸ sortItems_perm o b _⟩
      rw [hLists, List.getElem?_map, Bucket.getElem?_all, ← sortBucket_keyedItems]
      rfl
    · rw [sort, hSame, hBuckets]
      rfl
    · have hAll : (lists.filter fun members => true || !members.isEmpty) = lists :=
        List.filter_true lists
      rw [sort, hSame, hBuckets]
      show Except.ok (List.map Value.list _) = _
      rw [hAll]
    · rw [sort, hSame, hBuckets]
      rfl
    · exact List.flatten_filter_not_isEmpty

example : sort ⟨false, true, true, none⟩ [.text "b", .null, .text "a"] =
    .ok [.list [], .list [], .list [.text "a", .text "b"], .list [], .list [], .list [],
      .list [.null]] := by
  cbv

end Sorting

end BotScript
