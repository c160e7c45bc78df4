/-! Maps as lists of entries in strictly ascending order of keys.  `get?` is what a map means:
adding an entry changes it at the key alone, removing an entry takes the key away, and both keep
the order of keys. -/

namespace BotScript.Entries

variable {κ α : Type} [Ord κ]

/-- The keys are in strictly ascending order. -/
def Ascending (entries : List (κ × α)) : Prop :=
  entries.Pairwise fun a b => compare a.1 b.1 = .lt

/-- The value of a key. -/
def get? (key : κ) : List (κ × α) → Option α
  | [] => none
  | (k, v) :: rest => if compare key k = .eq then some v else get? key rest

/-- Adds an entry at its place, or replaces the entry with the same key. -/
def insert (key : κ) (value : α) : List (κ × α) → List (κ × α)
  | [] => [(key, value)]
  | (k, v) :: rest =>
    match compare key k with
    | .lt => (key, value) :: (k, v) :: rest
    | .eq => (key, value) :: rest
    | .gt => (k, v) :: insert key value rest

/-- Removes the entry of a key. -/
def erase (key : κ) (entries : List (κ × α)) : List (κ × α) :=
  entries.filter fun e => compare key e.1 != .eq

/-- Takes out the entry of a key, and gives its value. -/
def remove (key : κ) : List (κ × α) → Option α × List (κ × α)
  | [] => (none, [])
  | (k, v) :: rest =>
    if compare key k = .eq then (some v, rest)
    else
      let (found, others) := remove key rest
      (found, (k, v) :: others)

def has (key : κ) (entries : List (κ × α)) : Bool := (get? key entries).isSome

/-- The map of entries that were set one after another, a later one replacing an earlier one with
the same key. -/
def ofList (entries : List (κ × α)) : List (κ × α) :=
  entries.foldl (fun es e => insert e.1 e.2 es) []

/-- The values in the order of their keys. -/
def values (entries : List (κ × α)) : List α := entries.map (·.2)

/-! ### Looking up -/

section Lookup

variable {key other : κ} {value : α}

@[simp] theorem get?_erase_self (entries : List (κ × α)) : get? key (erase key entries) = none := by
  induction entries with
  | nil => rfl
  | cons e rest ih =>
    by_cases h : compare key e.1 = .eq <;> simpa [erase, get?, h] using ih

variable [Std.LawfulEqOrd κ]

theorem compare_ne_eq (h : other ≠ key) : compare other key ≠ .eq :=
  fun heq => h (Std.LawfulEqCmp.eq_of_compare heq)

@[simp] theorem get?_insert_self (entries : List (κ × α)) :
    get? key (insert key value entries) = some value := by
  induction entries with
  | nil => simp [insert, get?]
  | cons e rest ih =>
    simp only [insert]
    split
    · simp [get?]
    · simp [get?]
    · rename_i hgt
      simp [get?, hgt, ih]

theorem get?_insert_of_ne (h : other ≠ key) (entries : List (κ × α)) :
    get? other (insert key value entries) = get? other entries := by
  induction entries with
  | nil => simp [insert, get?, compare_ne_eq h]
  | cons e rest ih =>
    simp only [insert]
    split
    · simp [get?, compare_ne_eq h]
    · rename_i heq
      obtain rfl : key = e.1 := Std.LawfulEqCmp.eq_of_compare heq
      simp [get?, compare_ne_eq h]
    · simp [get?, ih]

theorem get?_erase_of_ne (h : other ≠ key) (entries : List (κ × α)) :
    get? other (erase key entries) = get? other entries := by
  induction entries with
  | nil => rfl
  | cons e rest ih =>
    by_cases hkey : compare key e.1 = .eq
    · obtain rfl : key = e.1 := Std.LawfulEqCmp.eq_of_compare hkey
      simpa [erase, get?, hkey, compare_ne_eq h] using ih
    · by_cases hother : compare other e.1 = .eq <;> simp [erase, get?, hkey, hother]
      simpa [erase] using ih

end Lookup

/-! ### Order -/

section Order

variable {key : κ} {value : α}

theorem ascending_erase {entries : List (κ × α)} (h : Ascending entries) :
    Ascending (erase key entries) := h.filter _

/-- The keys after an insertion are the old ones and the new one. -/
theorem mem_insert {e : κ × α} {entries : List (κ × α)} (h : e ∈ insert key value entries) :
    e = (key, value) ∨ e ∈ entries := by
  induction entries with
  | nil => simpa [insert] using h
  | cons f rest ih =>
    simp only [insert] at h
    split at h <;> grind

/-- An entry of a map is the value of its key. -/
theorem mem_iff_get? [Std.LawfulEqOrd κ] {entries : List (κ × α)} (h : Ascending entries) :
    (key, value) ∈ entries ↔ get? key entries = some value := by
  induction entries with
  | nil => simp [get?]
  | cons e rest ih =>
    obtain ⟨hHead, hRest⟩ := List.pairwise_cons.mp h
    rw [List.mem_cons, ih hRest]
    simp only [get?]
    by_cases hKey : compare key e.1 = .eq
    · obtain rfl : key = e.1 := Std.LawfulEqCmp.eq_of_compare hKey
      have hNone : get? e.1 rest ≠ some value := by
        intro hFound
        have hLt := hHead _ ((ih hRest).mpr hFound)
        rw [hKey] at hLt
        exact nomatch hLt
      simp [hNone, Prod.ext_iff, eq_comm]
    · have hNe : (key, value) ≠ e := fun heq => hKey (by simp [← heq])
      simp [hKey, hNe]

variable [Std.TransOrd κ]

/-- What is taken out is the value of the key, and what is left is the map without it. -/
theorem remove_eq {entries : List (κ × α)} (h : Ascending entries) :
    remove key entries = (get? key entries, erase key entries) := by
  induction entries with
  | nil => rfl
  | cons e rest ih =>
    obtain ⟨hHead, hRest⟩ := List.pairwise_cons.mp h
    by_cases hKey : compare key e.1 = .eq
    · have hOthers : ∀ f ∈ rest, compare key f.1 ≠ .eq := by
        intro f hf heq
        rw [Std.TransCmp.lt_of_eq_of_lt hKey (hHead f hf)] at heq
        exact nomatch heq
      have hErase : rest.filter (fun f => compare key f.1 != .eq) = rest :=
        List.filter_eq_self.mpr fun f hf => bne_iff_ne.mpr (hOthers f hf)
      simp [remove, get?, erase, hKey, hErase]
    · simp only [remove, hKey, ih hRest, get?, erase]
      simp [hKey]

theorem ascending_insert {entries : List (κ × α)} (h : Ascending entries) :
    Ascending (insert key value entries) := by
  induction entries with
  | nil => simp [insert, Ascending]
  | cons f rest ih =>
    obtain ⟨hHead, hRest⟩ := List.pairwise_cons.mp h
    simp only [insert]
    split
    · rename_i hlt
      refine List.pairwise_cons.mpr ⟨fun e he => ?_, h⟩
      rcases List.mem_cons.mp he with rfl | he
      · exact hlt
      · exact Std.TransCmp.lt_trans hlt (hHead e he)
    · rename_i heq
      refine List.pairwise_cons.mpr ⟨fun e he => ?_, hRest⟩
      exact Std.TransCmp.lt_of_eq_of_lt heq (hHead e he)
    · rename_i hgt
      refine List.pairwise_cons.mpr ⟨fun e he => ?_, ih hRest⟩
      rcases mem_insert he with rfl | he
      · exact Std.OrientedCmp.lt_of_gt hgt
      · exact hHead e he

theorem ascending_ofList (entries : List (κ × α)) : Ascending (ofList entries) := by
  suffices h : ∀ start : List (κ × α), Ascending start →
      Ascending (entries.foldl (fun es e => insert e.1 e.2 es) start) from
    h [] List.Pairwise.nil
  induction entries with
  | nil => exact fun _ h => h
  | cons e rest ih => exact fun start h => ih _ (ascending_insert h)

/-- A map is known by the values of its keys. -/
theorem eq_of_get? [Std.LawfulEqOrd κ] {xs ys : List (κ × α)} (hxs : Ascending xs)
    (hys : Ascending ys) (h : ∀ key, get? key xs = get? key ys) : xs = ys := by
  have hMem : ∀ e, e ∈ xs ↔ e ∈ ys := by
    intro e
    rw [mem_iff_get? hxs, h, ← mem_iff_get? hys]
  have hNodup : ∀ {entries : List (κ × α)}, Ascending entries → entries.Nodup :=
    fun hEntries => hEntries.imp fun hlt heq => by simp [heq] at hlt
  have hPerm : xs.Perm ys := (List.perm_ext_iff_of_nodup (hNodup hxs) (hNodup hys)).mpr hMem
  refine hPerm.eq_of_pairwise (fun a b _ _ hab hba => ?_) hxs hys
  rw [Std.OrientedCmp.gt_of_lt hab] at hba
  exact nomatch hba

end Order

end BotScript.Entries
