/-! Maps as lists of pairs in the order in which their keys were first entered. -/

namespace SchemaClasses.Entries

variable {κ α : Type} [DecidableEq κ]

/-- Enters a value. One that is there under the key is replaced in its place. -/
def set (key : κ) (value : α) : List (κ × α) → List (κ × α)
  | [] => [(key, value)]
  | (k, v) :: rest => if k = key then (key, value) :: rest else (k, v) :: set key value rest

/-- The entries of all other keys. -/
def erase (key : κ) : List (κ × α) → List (κ × α)
  | [] => []
  | (k, v) :: rest => if k = key then erase key rest else (k, v) :: erase key rest

/-- The value of a key. -/
def get? (key : κ) : List (κ × α) → Option α
  | [] => none
  | (k, v) :: rest => if k = key then some v else get? key rest

@[simp] theorem get?_set_self (key : κ) (value : α) (entries : List (κ × α)) :
    get? key (set key value entries) = some value := by
  induction entries with
  | nil => simp [set, get?]
  | cons e rest ih => by_cases h : e.1 = key <;> simp [set, get?, h, ih]

theorem get?_set_of_ne {key other : κ} (h : other ≠ key) (value : α) (entries : List (κ × α)) :
    get? other (set key value entries) = get? other entries := by
  induction entries with
  | nil => simp [set, get?, h.symm]
  | cons e rest ih =>
    by_cases hk : e.1 = key
    · simp [set, get?, hk, h.symm]
    · simp [set, get?, hk, ih]

/-- Entering a value changes what is found under its key, and nothing else. -/
theorem get?_set (key other : κ) (value : α) (entries : List (κ × α)) :
    get? other (set key value entries) =
      if other = key then some value else get? other entries := by
  by_cases h : other = key
  · rw [if_pos h, h, get?_set_self]
  · rw [if_neg h, get?_set_of_ne h]

/-- What was entered under a new key can be taken back. -/
theorem erase_set {key : κ} {entries : List (κ × α)} (h : get? key entries = none) (value : α) :
    erase key (set key value entries) = entries := by
  induction entries with
  | nil => simp [set, erase]
  | cons e rest ih =>
    by_cases hk : e.1 = key
    · simp [get?, hk] at h
    · rw [get?, if_neg hk] at h
      simp [set, erase, hk, ih h]

theorem isSome_get?_iff (key : κ) (entries : List (κ × α)) :
    (get? key entries).isSome ↔ key ∈ entries.map Prod.fst := by
  induction entries with
  | nil => simp [get?]
  | cons e rest ih =>
    by_cases h : e.1 = key
    · simp [get?, h]
    · simp [get?, h, ih, Ne.symm h]

theorem mem_of_get? {key : κ} {value : α} {entries : List (κ × α)}
    (h : get? key entries = some value) : (key, value) ∈ entries := by
  induction entries with
  | nil => cases h
  | cons e rest ih =>
    by_cases hk : e.1 = key
    · rw [get?, if_pos hk] at h
      cases h
      rw [← hk]
      exact List.mem_cons_self
    · rw [get?, if_neg hk] at h
      exact List.mem_cons_of_mem e (ih h)

/-- The first entry under a key is found. -/
theorem get?_eq_some_iff (key : κ) (value : α) (entries : List (κ × α)) :
    get? key entries = some value ↔ ∃ before behind,
      entries = before ++ (key, value) :: behind ∧ ∀ e ∈ before, e.1 ≠ key := by
  constructor
  · intro h
    induction entries with
    | nil => cases h
    | cons e rest ih =>
      by_cases hk : e.1 = key
      · rw [get?, if_pos hk] at h
        cases h
        exact ⟨[], rest, by rw [← hk]; rfl, nofun⟩
      · rw [get?, if_neg hk] at h
        obtain ⟨before, behind, hrest, hbefore⟩ := ih h
        exact ⟨e :: before, behind, by rw [hrest]; rfl, List.forall_mem_cons.mpr ⟨hk, hbefore⟩⟩
  · rintro ⟨before, behind, rfl, hbefore⟩
    induction before with
    | nil => exact if_pos rfl
    | cons e before ih =>
      obtain ⟨he, hbefore⟩ := List.forall_mem_cons.mp hbefore
      rw [List.cons_append, get?, if_neg he]
      exact ih hbefore

theorem get?_append (key : κ) (entries others : List (κ × α)) :
    get? key (entries ++ others) = (get? key entries).or (get? key others) := by
  induction entries with
  | nil => rfl
  | cons e rest ih =>
    by_cases hk : e.1 = key
    · simp [get?, hk]
    · simp [get?, hk, ih]

/-- With one entry to a key, every entry is found under its key. -/
theorem get?_eq_some_iff_mem {entries : List (κ × α)} (hnodup : (entries.map Prod.fst).Nodup)
    (key : κ) (value : α) : get? key entries = some value ↔ (key, value) ∈ entries := by
  refine ⟨mem_of_get?, fun h => ?_⟩
  obtain ⟨before, behind, rfl⟩ := List.append_of_mem h
  refine (get?_eq_some_iff key value _).mpr ⟨before, behind, rfl, fun e he hkey => ?_⟩
  rw [List.map_append, List.map_cons] at hnodup
  exact (List.nodup_append.mp hnodup).2.2 e.1 (List.mem_map_of_mem he) key List.mem_cons_self hkey

/-- A new key is the last one, and one that is there stays in its place. -/
theorem keys_set (key : κ) (value : α) (entries : List (κ × α)) :
    (set key value entries).map Prod.fst =
      if key ∈ entries.map Prod.fst then entries.map Prod.fst
      else entries.map Prod.fst ++ [key] := by
  induction entries with
  | nil => rfl
  | cons e rest ih =>
    by_cases hk : e.1 = key
    · simp [set, hk]
    · by_cases hrest : key ∈ rest.map Prod.fst
      · rw [if_pos hrest] at ih
        rw [set, if_neg hk, List.map_cons, ih, List.map_cons,
          if_pos (List.mem_cons_of_mem _ hrest)]
      · rw [if_neg hrest] at ih
        have hnew : key ∉ e.1 :: rest.map Prod.fst := by
          rw [List.mem_cons, not_or]
          exact ⟨Ne.symm hk, hrest⟩
        rw [set, if_neg hk, List.map_cons, ih, List.map_cons, if_neg hnew, List.cons_append]

/-- Entering a value leaves one entry to a key. -/
theorem nodup_keys_set {entries : List (κ × α)} (hnodup : (entries.map Prod.fst).Nodup) (key : κ)
    (value : α) : ((set key value entries).map Prod.fst).Nodup := by
  rw [keys_set]
  split
  · exact hnodup
  · rename_i hnew
    rw [List.nodup_append]
    refine ⟨hnodup, List.pairwise_singleton _ key, ?_⟩
    rintro other hother _ hkey rfl
    exact hnew (List.mem_singleton.mp hkey ▸ hother)

/-- With one entry to a key, the order of the entries has no part in what is found. -/
theorem get?_perm {entries permuted : List (κ × α)} (hperm : entries.Perm permuted)
    (hnodup : (entries.map Prod.fst).Nodup) (key : κ) :
    get? key entries = get? key permuted := by
  induction hperm with
  | nil => rfl
  | cons e hperm ih =>
    rw [get?, get?, ih (List.nodup_cons.mp hnodup).2]
  | swap e f rest =>
    have hne : f.1 ≠ e.1 := fun h => (List.nodup_cons.mp hnodup).1 (by simp [h])
    by_cases he : e.1 = key
    · have hf : f.1 ≠ key := fun hf => hne (hf.trans he.symm)
      simp [get?, he, hf]
    · simp [get?, he]
  | trans hfirst hsecond ihFirst ihSecond =>
    have hmiddle := (hfirst.map Prod.fst).nodup_iff.mp hnodup
    rw [ihFirst hnodup, ihSecond hmiddle]

end SchemaClasses.Entries
