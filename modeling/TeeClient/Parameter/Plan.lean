import TeeClient.Journal.Record
import TeeClient.Parameter

/-!
# What a parameter asks for

Before anything is mapped, `Parameter.plan` decides from a parameter alone what its slot needs:
words that can be written at once, or a mapping of some bytes. It refuses a parameter that cannot be
sent.

What a plan comes to is said once: for a reference by `Plan.refers`, and for a window into a block
by `Parameter.plan_window_cases`.
-/

namespace TeeClient

/-- Why a parameter cannot be sent. -/
inductive Refusal
  /-- The size does not fit a 32-bit word. -/
  | oversize (size : Nat)
  /-- The block may not be used in that direction. -/
  | notGranted (direction : Direction) (flags : Access)
  /-- The window reaches beyond the block. -/
  | outOfBounds (offset size limit : Nat)
  deriving DecidableEq, Repr

/-- The log record of a refusal in a slot. -/
def Refusal.record (slot : Slot) : Refusal → Record
  | oversize size => .oversize slot size
  | notGranted direction flags => .notGranted slot direction flags
  | outOfBounds offset size limit => .outOfBounds slot offset size limit

/-- What the slot of a parameter needs. -/
inductive Plan
  /-- These words, and no mapping. -/
  | words (w : SlotWords)
  /-- A mapping of `len` bytes from an address on. -/
  | mapping (address : Address) (len : Nat) (access : Access)
  deriving DecidableEq, Repr

namespace Plan

/-- The plan for `len` bytes of a buffer from `offset` on. Without a buffer or without bytes nothing
is mapped and only the size is sent. -/
def reference (buffer : Option BufferId) (offset len : Nat) (access : Access) :
    Except Refusal Plan :=
  if len < UInt32.size then
    match buffer with
    | some buffer =>
      if 0 < len then .ok (.mapping ⟨buffer, offset⟩ len access)
      else .ok (.words (.memref 0 0 len.toUInt32))
    | none => .ok (.words (.memref 0 0 len.toUInt32))
  else .error (.oversize len)

/-- What the plan of a reference comes to: its bytes are mapped, or there are none and only the size
is sent, unless the size does not fit a word. -/
inductive Refers (buffer : Option BufferId) (offset len : Nat) (access : Access) :
    Except Refusal Plan → Prop
  | mapped (id : BufferId) (held : buffer = some id) (fits : len < UInt32.size) (pos : 0 < len) :
    Refers buffer offset len access (.ok (.mapping ⟨id, offset⟩ len access))
  | empty (fits : len < UInt32.size) (nothing : buffer = none ∨ len = 0) :
    Refers buffer offset len access (.ok (.words (.memref 0 0 len.toUInt32)))
  | oversize (large : UInt32.size ≤ len) :
    Refers buffer offset len access (.error (.oversize len))

/-- The plan of a reference comes to one of these. -/
theorem refers (buffer : Option BufferId) (offset len : Nat) (access : Access) :
    Refers buffer offset len access (reference buffer offset len access) := by
  unfold reference
  split
  next fits =>
    cases buffer with
    | none => exact .empty fits (.inl rfl)
    | some id =>
      simp only
      split
      next pos => exact .mapped id rfl fits pos
      next hzero => exact .empty fits (.inr (Nat.eq_zero_of_not_pos hzero))
  next large => exact .oversize (Nat.le_of_not_lt large)

/-- What a reference asks to have mapped are its bytes, with its access. -/
theorem of_reference_eq_mapping {buffer : Option BufferId} {offset len len' : Nat}
    {access access' : Access} {address : Address}
    (h : reference buffer offset len access = .ok (.mapping address len' access')) :
    buffer = some address.buffer ∧ address.offset = offset ∧ len' = len ∧ access' = access := by
  have hrefers := refers buffer offset len access
  rw [h] at hrefers
  cases hrefers with
  | mapped id held => exact ⟨held, rfl, rfl, rfl⟩

end Plan

namespace Parameter

/-- What the slot of a parameter needs, or why the parameter cannot be sent. Of a value that only
comes back nothing is sent. -/
def plan : Parameter → Except Refusal Plan
  | unused => .ok (.words .zero)
  | value direction a b => .ok (.words (if direction.reads then .value a b else .zero))
  | temporary direction buffer size => Plan.reference buffer 0 size direction.access
  | whole parent _ => Plan.reference parent.buffer 0 parent.size parent.flags.directionsOnly
  | window direction parent offset size =>
    if !parent.flags.contains direction.access then .error (.notGranted direction parent.flags)
    else if offset + size > parent.size then .error (.outOfBounds offset size parent.size)
    else Plan.reference parent.buffer offset size direction.access

/-- A window is refused in a direction that is not granted or beyond its block, and is planned as a
reference otherwise. -/
theorem plan_window_cases (direction : Direction) (parent : Block) (offset size : Nat) :
    (parent.flags.contains direction.access = false ∧
      (window direction parent offset size).plan
        = .error (.notGranted direction parent.flags)) ∨
    (parent.size < offset + size ∧
      (window direction parent offset size).plan
        = .error (.outOfBounds offset size parent.size)) ∨
    (parent.flags.contains direction.access = true ∧ offset + size ≤ parent.size ∧
      (window direction parent offset size).plan
        = Plan.reference parent.buffer offset size direction.access) := by
  simp only [plan]
  cases parent.flags.contains direction.access with
  | false => exact .inl ⟨rfl, rfl⟩
  | true =>
    by_cases hbeyond : offset + size > parent.size
    · exact .inr (.inl ⟨hbeyond, if_pos hbeyond⟩)
    · exact .inr (.inr ⟨rfl, Nat.le_of_not_lt hbeyond, if_neg hbeyond⟩)

/-- A window that is planned is granted, inside of its block, and planned as a reference. -/
theorem of_plan_window {direction : Direction} {parent : Block} {offset size : Nat} {plan : Plan}
    (h : (window direction parent offset size).plan = .ok plan) :
    parent.flags.contains direction.access = true ∧ offset + size ≤ parent.size ∧
      Plan.reference parent.buffer offset size direction.access = .ok plan := by
  obtain ⟨-, he⟩ | ⟨-, he⟩ | ⟨granted, inside, he⟩ := plan_window_cases direction parent offset size
  · rw [he] at h
    cases h
  · rw [he] at h
    cases h
  · exact ⟨granted, inside, he.symm.trans h⟩

end Parameter

end TeeClient
