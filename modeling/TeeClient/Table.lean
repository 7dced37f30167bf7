/-!
# Keyed tables

`Table κ α` is a finite map from keys to values that keeps the order in which its keys were first
entered. It backs every collection of named or numbered things in the library: pages, buffers,
sessions, mappings, blocks. `Arena α` is a table whose keys are numbers it hands out itself, each
number once.

The view of a table is `get?`; each operation has one equation per case for it. A key occurs once
(`nodup`), so `size` counts keys and `erase` of a present key lowers it by one.
-/

namespace TeeClient

/-- A finite map in order of first entry. -/
structure Table (κ α : Type) where
  /-- The entries, oldest key first. -/
  entries : List (κ × α)
  /-- No key is entered twice. -/
  nodup : (entries.map Prod.fst).Nodup

namespace Table

variable {κ α : Type}

/-- The table without entries. -/
def empty : Table κ α := ⟨[], List.nodup_nil⟩

instance : Inhabited (Table κ α) := ⟨empty⟩

instance [Repr κ] [Repr α] : Repr (Table κ α) := ⟨fun t n => reprPrec t.entries n⟩

/-- Tables with the same entries are equal. -/
@[ext] theorem ext {s t : Table κ α} (h : s.entries = t.entries) : s = t := by
  cases s; cases t; cases h; rfl

instance [DecidableEq κ] [DecidableEq α] : DecidableEq (Table κ α) := fun s t =>
  decidable_of_iff (s.entries = t.entries) ⟨ext, fun h => h ▸ rfl⟩

/-- The keys in order of first entry. -/
def keys (t : Table κ α) : List κ := t.entries.map Prod.fst

/-- The values in the order of their keys. -/
def values (t : Table κ α) : List α := t.entries.map Prod.snd

/-- How many keys are present. -/
def size (t : Table κ α) : Nat := t.entries.length

variable [DecidableEq κ]

/-- The value first found under a key of an entry list. -/
def lookup : List (κ × α) → κ → Option α
  | [], _ => none
  | (k, v) :: rest, key => if k = key then some v else lookup rest key

/-- The entry list with the value under an existing key replaced. -/
def replace : List (κ × α) → κ → α → List (κ × α)
  | [], _, _ => []
  | (k, v) :: rest, key, value =>
    if k = key then (k, value) :: rest else (k, v) :: replace rest key value

/-- The value under a key. -/
def get? (t : Table κ α) (key : κ) : Option α := lookup t.entries key

/-- Whether a key is present. -/
def contains (t : Table κ α) (key : κ) : Bool := (t.get? key).isSome

/-- Replacing a value leaves the keys as they are. -/
theorem map_fst_replace (l : List (κ × α)) (key : κ) (value : α) :
    (replace l key value).map Prod.fst = l.map Prod.fst := by
  induction l with
  | nil => rfl
  | cons e rest ih =>
    by_cases h : e.1 = key <;> simp [replace, h, ih]

/-- Nothing is found exactly under the keys that do not occur. -/
theorem lookup_eq_none_iff {l : List (κ × α)} {key : κ} :
    lookup l key = none ↔ key ∉ l.map Prod.fst := by
  induction l with
  | nil => simp [lookup]
  | cons e rest ih =>
    by_cases h : e.1 = key
    · simp [lookup, h]
    · simp [lookup, h, ih, Ne.symm h]

/-- Enter a value: an existing key keeps its place, a new key goes to the end. -/
def set (t : Table κ α) (key : κ) (value : α) : Table κ α :=
  if h : lookup t.entries key = none then
    -- the key is new, so the keys stay distinct
    ⟨t.entries ++ [(key, value)], by
      simpa [List.nodup_append, t.nodup] using fun a b hab hk =>
        lookup_eq_none_iff.1 h (List.mem_map.2 ⟨(a, b), hab, hk⟩)⟩
  else
    ⟨replace t.entries key value, by rw [map_fst_replace]; exact t.nodup⟩

/-- Change the value under a key, if it is present. -/
def modify (t : Table κ α) (key : κ) (f : α → α) : Table κ α :=
  match t.get? key with
  | none => t
  | some value => t.set key (f value)

/-- Remove a key. -/
def erase (t : Table κ α) (key : κ) : Table κ α :=
  ⟨t.entries.filter (fun e => decide (e.1 ≠ key)),
    t.nodup.sublist (List.filter_sublist.map Prod.fst)⟩

/-- A table with the given entries; of two entries for one key the later holds. -/
def ofList (l : List (κ × α)) : Table κ α :=
  l.foldl (fun t e => t.set e.1 e.2) empty

/-- A key is present if it has a value. -/
theorem contains_iff {t : Table κ α} {key : κ} :
    t.contains key = true ↔ ∃ value, t.get? key = some value := Option.isSome_iff_exists

/-- A value that is found is among the values. -/
theorem mem_values_of_get? {t : Table κ α} {key : κ} {value : α} (h : t.get? key = some value) :
    value ∈ t.values := by
  obtain ⟨entries, nodup⟩ := t
  simp only [get?, values] at h ⊢
  clear nodup
  induction entries with
  | nil => cases h
  | cons e rest ih =>
    by_cases hk : e.1 = key
    · simp only [lookup, hk, if_true, Option.some.injEq] at h
      exact List.mem_map.2 ⟨e, List.mem_cons_self, h⟩
    · simp only [lookup, hk, if_false] at h
      exact List.mem_cons_of_mem _ (ih h)

/-! ## What each operation does to the view -/

/-- What the first list holds hides what the second one holds. -/
theorem lookup_append (l m : List (κ × α)) (key : κ) :
    lookup (l ++ m) key = (lookup l key).or (lookup m key) := by
  induction l with
  | nil => simp [lookup]
  | cons e rest ih =>
    by_cases h : e.1 = key <;> simp [lookup, h, ih]

/-- A replaced value is the new one. -/
theorem lookup_replace_self {l : List (κ × α)} {key : κ} (value : α)
    (h : lookup l key ≠ none) : lookup (replace l key value) key = some value := by
  induction l with
  | nil => simp [lookup] at h
  | cons e rest ih =>
    by_cases hk : e.1 = key
    · simp [replace, lookup, hk]
    · simp only [lookup, hk, if_false, ne_eq] at h
      simp [replace, lookup, hk, ih h]

/-- Replacing a value leaves those under other keys. -/
theorem lookup_replace_ne {l : List (κ × α)} {key other : κ} (value : α) (hne : other ≠ key) :
    lookup (replace l key value) other = lookup l other := by
  induction l with
  | nil => rfl
  | cons e rest ih =>
    by_cases hk : e.1 = key
    · simp [replace, lookup, hk, Ne.symm hne]
    · by_cases ho : e.1 = other
      · simp [replace, lookup, ho, hne]
      · simp [replace, lookup, hk, ho, ih]

/-- Striking a key out leaves what stands under other keys. -/
theorem lookup_filter_ne (l : List (κ × α)) (key other : κ) :
    lookup (l.filter fun e => decide (e.1 ≠ key)) other
      = if other = key then none else lookup l other := by
  induction l with
  | nil => simp [lookup]
  | cons e rest ih =>
    by_cases hk : e.1 = key
    · by_cases ho : other = key
      · simp_all
      · have hne : e.1 ≠ other := fun h => ho (h.symm.trans hk)
        simp_all [lookup]
    · by_cases ho : e.1 = other
      · have hne : other ≠ key := fun h => hk (ho.trans h)
        simp_all [lookup]
      · simp_all [lookup]

/-- The empty table holds nothing. -/
@[simp] theorem get?_empty (key : κ) : (empty : Table κ α).get? key = none := rfl

/-- A key has the value that was entered last. -/
@[simp] theorem get?_set_self (t : Table κ α) (key : κ) (value : α) :
    (t.set key value).get? key = some value := by
  unfold set get?
  split
  next h => simp [lookup_append, h, lookup]
  next h => exact lookup_replace_self value h

/-- Entering a value leaves the other keys. -/
theorem get?_set_ne (t : Table κ α) {key other : κ} (value : α) (hne : other ≠ key) :
    (t.set key value).get? other = t.get? other := by
  unfold set get?
  split
  next h => simp [lookup_append, lookup, Ne.symm hne]
  next h => exact lookup_replace_ne value hne

/-- What a table holds after an entry. -/
theorem get?_set (t : Table κ α) (key other : κ) (value : α) :
    (t.set key value).get? other = if other = key then some value else t.get? other := by
  by_cases h : other = key
  · subst h; simp
  · simp [get?_set_ne t value h, h]

/-- Replacing a value by itself changes nothing. -/
theorem replace_eq_self {l : List (κ × α)} {key : κ} {value : α} (h : lookup l key = some value) :
    replace l key value = l := by
  induction l with
  | nil => rfl
  | cons e rest ih =>
    by_cases hk : e.1 = key
    · simp only [lookup, hk, if_true, Option.some.injEq] at h
      simp only [replace, hk, if_true, ← h]
      rw [← hk]
    · simp only [lookup, hk, if_false] at h
      simp only [replace, hk, if_false, ih h]

/-- Entering a value again changes nothing. -/
theorem set_eq_self {t : Table κ α} {key : κ} {value : α} (h : t.get? key = some value) :
    t.set key value = t := by
  have hl : lookup t.entries key = some value := h
  unfold set
  split
  next hn =>
    rw [hl] at hn
    cases hn
  next => exact ext (replace_eq_self hl)

/-- What a table holds after a removal. -/
theorem get?_erase (t : Table κ α) (key other : κ) :
    (t.erase key).get? other = if other = key then none else t.get? other := by
  unfold erase get?
  exact lookup_filter_ne t.entries key other

/-- A removed key is gone. -/
@[simp] theorem get?_erase_self (t : Table κ α) (key : κ) : (t.erase key).get? key = none := by
  simp [get?_erase]

/-- A removal leaves the other keys. -/
theorem get?_erase_ne (t : Table κ α) {key other : κ} (hne : other ≠ key) :
    (t.erase key).get? other = t.get? other := by
  simp [get?_erase, hne]

/-- Which keys are present after an entry. -/
theorem contains_set (t : Table κ α) (key other : κ) (value : α) :
    (t.set key value).contains other = (decide (other = key) || t.contains other) := by
  unfold contains
  rw [get?_set]
  by_cases h : other = key <;> simp [h]

/-- Which keys are present after a removal. -/
theorem contains_erase (t : Table κ α) (key other : κ) :
    (t.erase key).contains other = (!decide (other = key) && t.contains other) := by
  unfold contains
  rw [get?_erase]
  by_cases h : other = key <;> simp [h]

/-- What a table holds after a change. -/
theorem get?_modify (t : Table κ α) (key other : κ) (f : α → α) :
    (t.modify key f).get? other
      = if other = key then (t.get? other).map f else t.get? other := by
  unfold modify
  by_cases ho : other = key
  · subst ho
    cases h : t.get? other <;> simp [h]
  · cases h : t.get? key <;> simp [ho, get?_set_ne]

/-- Replacing a value leaves the number of entries as it is. -/
theorem length_replace (l : List (κ × α)) (key : κ) (value : α) :
    (replace l key value).length = l.length := by
  simpa using congrArg List.length (map_fst_replace l key value)

/-- Replacing a value changes the number of values with a property by what the two have of it. -/
theorem countP_replace (p : α → Bool) {l : List (κ × α)} {key : κ} {old : α}
    (h : lookup l key = some old) (value : α) :
    (replace l key value).countP (fun e => p e.2) + (p old).toNat
      = l.countP (fun e => p e.2) + (p value).toNat := by
  induction l with
  | nil => cases h
  | cons e rest ih =>
    by_cases hk : e.1 = key
    · simp only [lookup, hk, if_true, Option.some.injEq] at h
      subst h
      simp only [replace, hk, if_true, List.countP_cons]
      cases p value <;> cases p e.2 <;> simp
    · simp only [lookup, hk, if_false] at h
      have := ih h
      simp only [replace, hk, if_false, List.countP_cons]
      omega

/-- Striking a key out of a list in which it occurs at most once drops one entry, or none. -/
theorem length_filter_ne {l : List (κ × α)} (h : (l.map Prod.fst).Nodup) (key : κ) :
    (l.filter fun e => decide (e.1 ≠ key)).length
      = if (lookup l key).isSome then l.length - 1 else l.length := by
  induction l with
  | nil => rfl
  | cons e rest ih =>
    rw [List.map_cons, List.nodup_cons] at h
    by_cases hk : e.1 = key
    · -- the head is the one that is struck out, and the rest does not hold the key again
      have hn : lookup rest key = none := lookup_eq_none_iff.2 (hk ▸ h.1)
      simpa [lookup, hk, hn] using ih h.2
    · cases hs : lookup rest key with
      | none => simpa [lookup, hk, hs] using ih h.2
      | some value =>
        have hpos : 0 < rest.length := by
          cases rest with
          | nil => simp [lookup] at hs
          | cons _ _ => simp
        have := ih h.2
        simp [lookup, hk, hs] at this ⊢
        omega

/-- A key has a value exactly if it is entered with it. -/
theorem get?_eq_some_iff {t : Table κ α} {key : κ} {value : α} :
    t.get? key = some value ↔ (key, value) ∈ t.entries := by
  obtain ⟨entries, nodup⟩ := t
  simp only [get?]
  induction entries with
  | nil => simp [lookup]
  | cons e rest ih =>
    rw [List.map_cons, List.nodup_cons] at nodup
    by_cases hk : e.1 = key
    · -- the key is not entered again behind its first entry
      have hnot : (key, value) ∉ rest := fun hmem => nodup.1 (hk ▸ List.mem_map_of_mem hmem)
      simp [lookup, hk, hnot, Prod.ext_iff, eq_comm]
    · have hne : (key, value) ≠ e := fun he => hk (by rw [← he])
      simp [lookup, hk, hne, ih nodup.2]

/-- A key has one value. -/
theorem value_eq {t : Table κ α} {key : κ} {value : α} {e : κ × α} (h : t.get? key = some value)
    (he : e ∈ t.entries) (hk : e.1 = key) : e.2 = value := by
  subst hk
  exact Option.some.inj ((get?_eq_some_iff.2 he).symm.trans h)

/-- A new key goes to the end. -/
theorem entries_set_of_new {t : Table κ α} {key : κ} (value : α) (h : t.contains key = false) :
    (t.set key value).entries = t.entries ++ [(key, value)] := by
  have hnone : lookup t.entries key = none := by simpa [contains, get?] using h
  simp [set, hnone]

/-- A new key adds one entry, a present one none. -/
theorem size_set (t : Table κ α) (key : κ) (value : α) :
    (t.set key value).size = if t.contains key then t.size else t.size + 1 := by
  unfold set size contains get?
  split
  next h => simp [h]
  next h => simp [length_replace, Option.isSome_iff_ne_none.2 h]

/-- A table in which nothing is found has no entries. -/
theorem size_eq_zero {t : Table κ α} (h : ∀ key, t.get? key = none) : t.size = 0 := by
  unfold size
  cases he : t.entries with
  | nil => rfl
  | cons entry rest =>
    have hfirst : t.get? entry.1 = some entry.2 := by simp [get?, he, lookup]
    rw [h] at hfirst
    cases hfirst

/-- Removing a present key takes one entry, removing another none. -/
theorem size_erase (t : Table κ α) (key : κ) :
    (t.erase key).size = if t.contains key then t.size - 1 else t.size :=
  length_filter_ne t.nodup key

end Table

/-- A table whose keys are numbers that it hands out itself. -/
structure Arena (α : Type) where
  /-- The number the next entry gets. -/
  next : Nat
  /-- The entries by number. -/
  table : Table Nat α
  /-- Every number in use was handed out earlier. -/
  lt_next : ∀ key ∈ table.keys, key < next

namespace Arena

variable {α : Type}

/-- The arena that has handed out no number. -/
def empty : Arena α := ⟨0, .empty, by simp [Table.empty, Table.keys]⟩

instance : Inhabited (Arena α) := ⟨empty⟩

instance [Repr α] : Repr (Arena α) := ⟨fun a n => reprPrec (a.next, a.table) n⟩

/-- Arenas with the same entries that go on with the same number are equal. -/
@[ext] theorem ext {a b : Arena α} (hn : a.next = b.next) (ht : a.table = b.table) : a = b := by
  cases a; cases b; cases hn; cases ht; rfl

/-- The value under a number. -/
def get? (a : Arena α) (key : Nat) : Option α := a.table.get? key

/-- A number under which something is found is in use. -/
theorem mem_keys_of_get? {a : Arena α} {key : Nat} {value : α} (h : a.get? key = some value) :
    key ∈ a.table.keys := by
  apply Decidable.byContradiction
  intro hn
  have : a.get? key = none := Table.lookup_eq_none_iff.2 hn
  rw [h] at this
  cases this

/-- A number in use is below the next one. -/
theorem lt_of_get? {a : Arena α} {key : Nat} {value : α} (h : a.get? key = some value) :
    key < a.next := a.lt_next key (mem_keys_of_get? h)

/-- Entering a value brings at most its own key. -/
theorem mem_keys_set {t : Table Nat α} {key other : Nat} {value : α}
    (h : other ∈ (t.set key value).keys) : other = key ∨ other ∈ t.keys := by
  unfold Table.set Table.keys at *
  split at h
  · simpa [or_comm] using h
  · rw [Table.map_fst_replace] at h
    exact .inr h

/-- The number that `add` hands out. -/
def fresh (a : Arena α) : Nat := a.next

/-- Enter a value under a fresh number. -/
def add (a : Arena α) (value : α) : Arena α :=
  ⟨a.next + 1, a.table.set a.next value, fun key h => by
    rcases mem_keys_set h with rfl | h
    · exact Nat.lt_succ_self _
    · exact Nat.lt_succ_of_lt (a.lt_next key h)⟩

/-- Change the value under a number, if it is in use. -/
def modify (a : Arena α) (key : Nat) (f : α → α) : Arena α :=
  ⟨a.next, a.table.modify key f, fun other h => by
    unfold Table.modify at h
    split at h
    · exact a.lt_next other h
    next value hv =>
      rcases mem_keys_set h with rfl | h
      · exact lt_of_get? (a := a) hv
      · exact a.lt_next other h⟩

/-- Give up a number for good. -/
def erase (a : Arena α) (key : Nat) : Arena α :=
  ⟨a.next, a.table.erase key, fun other h => by
    unfold Table.erase Table.keys at h
    rcases List.mem_map.1 h with ⟨e, he, rfl⟩
    exact a.lt_next _ (List.mem_map.2 ⟨e, (List.mem_filter.1 he).1, rfl⟩)⟩

/-! ## What each operation does to the view -/

/-- The empty arena holds nothing. -/
@[simp] theorem get?_empty (key : Nat) : (empty : Arena α).get? key = none := rfl

/-- Changing a value into itself changes nothing. -/
theorem modify_eq_self {a : Arena α} {key : Nat} {f : α → α}
    (h : ∀ value, a.get? key = some value → f value = value) : a.modify key f = a := by
  refine ext rfl ?_
  show a.table.modify key f = a.table
  unfold Table.modify
  split
  · rfl
  next value hv =>
    rw [h value hv]
    exact Table.set_eq_self hv

/-- A fresh number is not in use. -/
@[simp] theorem get?_fresh (a : Arena α) : a.get? a.fresh = none := by
  cases h : a.get? a.fresh with
  | none => rfl
  | some value => exact absurd (lt_of_get? h) (Nat.lt_irrefl _)

/-- What an arena holds after an entry. -/
theorem get?_add (a : Arena α) (value : α) (key : Nat) :
    (a.add value).get? key = if key = a.fresh then some value else a.get? key :=
  Table.get?_set a.table a.fresh key value

/-- What is added goes to the end. -/
theorem entries_add (a : Arena α) (value : α) :
    (a.add value).table.entries = a.table.entries ++ [(a.fresh, value)] := by
  have hfresh : a.table.get? a.next = none := a.get?_fresh
  exact Table.entries_set_of_new value (by simp [Table.contains, hfresh])

/-- What an arena holds after a change. -/
theorem get?_modify (a : Arena α) (key other : Nat) (f : α → α) :
    (a.modify key f).get? other
      = if other = key then (a.get? other).map f else a.get? other :=
  Table.get?_modify a.table key other f

/-- Which numbers are in use does not change with what is held under them. -/
theorem isSome_get?_modify (a : Arena α) (key other : Nat) (f : α → α) :
    ((a.modify key f).get? other).isSome = (a.get? other).isSome := by
  rw [get?_modify]
  split <;> simp

/-- A change to a value changes the number of values with a property by what the two have of it. -/
theorem countP_modify (p : α → Bool) {a : Arena α} {key : Nat} {old : α}
    (h : a.get? key = some old) (f : α → α) :
    (a.modify key f).table.entries.countP (fun e => p e.2) + (p old).toNat
      = a.table.entries.countP (fun e => p e.2) + (p (f old)).toNat := by
  have hl : Table.lookup a.table.entries key = some old := h
  have hmodified : (a.modify key f).table.entries = Table.replace a.table.entries key (f old) := by
    show (a.table.modify key f).entries = _
    unfold Table.modify
    rw [show a.table.get? key = some old from h]
    simp [Table.set, hl]
  rw [hmodified]
  exact Table.countP_replace p hl (f old)

/-- What an arena holds after a removal. -/
theorem get?_erase (a : Arena α) (key other : Nat) :
    (a.erase key).get? other = if other = key then none else a.get? other :=
  Table.get?_erase a.table key other

end Arena

end TeeClient
