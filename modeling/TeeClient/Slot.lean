/-!
# Slots

A call carries four parameter slots. `Slot` is the number of one, and `Slots α` holds something for
each. The view of `Slots` is `get`; `put` changes what one slot holds and no other.
-/

namespace TeeClient

/-- The number of a parameter slot. -/
abbrev Slot := Fin 4

namespace Slot

/-- The slots in ascending order. -/
def ascending : List Slot := [0, 1, 2, 3]

/-- The slots in descending order. -/
def descending : List Slot := [3, 2, 1, 0]

/-- The slot with a number. -/
def ofNat? (n : Nat) : Option Slot := if h : n < 4 then some ⟨n, h⟩ else none

/-- The wording for a number that is not below four. -/
def outOfRange (n : Nat) : String := s!"BUG: parameter slot {n} out of range"

/-- Every slot is in the ascending list. -/
theorem mem_ascending : ∀ slot : Slot, slot ∈ ascending := by decide

/-- Every slot is in the descending list. -/
theorem mem_descending : ∀ slot : Slot, slot ∈ descending := by decide

/-- The slot with a slot's number is that slot. -/
@[simp] theorem ofNat?_val (slot : Slot) : ofNat? slot.val = some slot := by
  simp [ofNat?, slot.isLt]

end Slot

/-- Something for each slot. -/
structure Slots (α : Type) where
  /-- What slot 0 holds. -/
  slot0 : α
  /-- What slot 1 holds. -/
  slot1 : α
  /-- What slot 2 holds. -/
  slot2 : α
  /-- What slot 3 holds. -/
  slot3 : α
  deriving DecidableEq, Repr

namespace Slots

variable {α : Type}

/-- What a slot holds. -/
def get (s : Slots α) (slot : Slot) : α :=
  match slot with
  | 0 => s.slot0
  | 1 => s.slot1
  | 2 => s.slot2
  | 3 => s.slot3

/-- The slots with what one of them holds replaced. -/
def put (s : Slots α) (slot : Slot) (value : α) : Slots α :=
  match slot with
  | 0 => { s with slot0 := value }
  | 1 => { s with slot1 := value }
  | 2 => { s with slot2 := value }
  | 3 => { s with slot3 := value }

/-- Each slot holds what a function says. -/
def ofFn (f : Slot → α) : Slots α := ⟨f 0, f 1, f 2, f 3⟩

/-- Every slot holds the same. -/
def replicate (value : α) : Slots α := ⟨value, value, value, value⟩

/-- What the slots hold, slot 0 first. -/
def toList (s : Slots α) : List α := [s.slot0, s.slot1, s.slot2, s.slot3]

/-- A slot holds what was put into it last. -/
@[simp] theorem get_put_self (s : Slots α) (slot : Slot) (value : α) :
    (s.put slot value).get slot = value := by
  match slot with
  | 0 | 1 | 2 | 3 => rfl

/-- Putting something into a slot leaves the others as they are. -/
theorem get_put_ne (s : Slots α) {slot other : Slot} (value : α) (h : other ≠ slot) :
    (s.put slot value).get other = s.get other := by
  match slot, other with
  | 0, 0 | 1, 1 | 2, 2 | 3, 3 => exact absurd rfl h
  | 0, 1 | 0, 2 | 0, 3 | 1, 0 | 1, 2 | 1, 3 | 2, 0 | 2, 1 | 2, 3 | 3, 0 | 3, 1 | 3, 2 => rfl

/-- What a slot holds after something was put into one. -/
theorem get_put (s : Slots α) (slot other : Slot) (value : α) :
    (s.put slot value).get other = if other = slot then value else s.get other := by
  by_cases h : other = slot
  · subst h; simp
  · simp [get_put_ne s value h, h]

/-- Slots made by a function hold what it says. -/
@[simp] theorem get_ofFn (f : Slot → α) (slot : Slot) : (ofFn f).get slot = f slot := by
  match slot with
  | 0 | 1 | 2 | 3 => rfl

/-- Slots that all hold the same hold that. -/
@[simp] theorem get_replicate (value : α) (slot : Slot) : (replicate value).get slot = value := by
  match slot with
  | 0 | 1 | 2 | 3 => rfl

/-- Slots that hold the same everywhere are equal. -/
theorem ext_get {s t : Slots α} (h : ∀ slot, s.get slot = t.get slot) : s = t := by
  cases s; cases t
  simpa [get] using And.intro (h 0) (And.intro (h 1) (And.intro (h 2) (h 3)))

end Slots

end TeeClient
