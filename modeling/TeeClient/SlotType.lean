import TeeClient.Bytes
import TeeClient.Slot

/-!
# Parameter types on the wire

A call carries four parameter slots. The type of slot `i` lies in bits `4 * i` to `4 * i + 3` of a
32-bit vector. `SlotType.pack` builds the vector and `SlotType.at?` reads one slot of it, which has
the type that was packed there (`SlotType.at?_pack`).
-/

namespace TeeClient

/-- Type of one parameter slot. -/
inductive SlotType
  /-- The slot is unused. -/
  | none
  /-- A pair of words from the client. -/
  | valueInput
  /-- A pair of words to the client. -/
  | valueOutput
  /-- A pair of words in both directions. -/
  | valueInout
  /-- A buffer lent for one call, read by the secure world. -/
  | tempInput
  /-- A buffer lent for one call, written by the secure world. -/
  | tempOutput
  /-- A buffer lent for one call, read and written. -/
  | tempInout
  /-- A shared block as a whole; it never appears on the wire. -/
  | whole
  /-- A window of a shared block, read by the secure world. -/
  | partialInput
  /-- A window of a shared block, written by the secure world. -/
  | partialOutput
  /-- A window of a shared block, read and written. -/
  | partialInout
  deriving DecidableEq, Repr, Inhabited

/-- Data flows from the client into the secure world. -/
def inputBit : UInt32 := 1

/-- Data flows from the secure world back to the client. -/
def outputBit : UInt32 := 2

namespace SlotType

/-- The four-bit code. -/
def raw : SlotType → UInt8
  | none => 0x0
  | valueInput => 0x1
  | valueOutput => 0x2
  | valueInout => 0x3
  | tempInput => 0x5
  | tempOutput => 0x6
  | tempInout => 0x7
  | whole => 0xC
  | partialInput => 0xD
  | partialOutput => 0xE
  | partialInout => 0xF

/-- The type with the given code. -/
def ofRaw? (nibble : UInt8) : Option SlotType :=
  match nibble.toNat with
  | 0x0 => some none
  | 0x1 => some valueInput
  | 0x2 => some valueOutput
  | 0x3 => some valueInout
  | 0x5 => some tempInput
  | 0x6 => some tempOutput
  | 0x7 => some tempInout
  | 0xC => some whole
  | 0xD => some partialInput
  | 0xE => some partialOutput
  | 0xF => some partialInout
  | _ => Option.none

/-- The wording for a code that names no type. -/
def unknownMessage (nibble : UInt8) : String :=
  "Unknown parameter type " ++ Hex.marked nibble.toNat

/-- The name in listings. -/
def name : SlotType → String
  | none => "None"
  | valueInput => "ValueInput"
  | valueOutput => "ValueOutput"
  | valueInout => "ValueInout"
  | tempInput => "TempInput"
  | tempOutput => "TempOutput"
  | tempInout => "TempInout"
  | whole => "Whole"
  | partialInput => "PartialInput"
  | partialOutput => "PartialOutput"
  | partialInout => "PartialInout"

/-- The slot carries a pair of words. -/
def isValue : SlotType → Bool
  | valueInput | valueOutput | valueInout => true
  | _ => false

/-- The slot carries the description of a mapped buffer. -/
def isMemref : SlotType → Bool
  | none | valueInput | valueOutput | valueInout => false
  | _ => true

/-- The direction bits. A whole block has none of its own: it has those of the block. -/
def direction : SlotType → UInt32
  | none | whole => 0
  | t => t.raw.toUInt32 &&& 3

/-- The type under which a block with these direction bits is sent, be it as a whole or as a
window. Bits other than the two directions do not count. -/
def ofAccess (direction : UInt32) : SlotType :=
  if direction &&& 3 = inputBit then partialInput
  else if direction &&& 3 = outputBit then partialOutput
  else partialInout

/-- The type vector of four slots. -/
def pack (types : Slots SlotType) : UInt32 :=
  types.slot0.raw.toUInt32 ||| types.slot1.raw.toUInt32 <<< 4 ||| types.slot2.raw.toUInt32 <<< 8
    ||| types.slot3.raw.toUInt32 <<< 12

/-- The code of a slot in a type vector. -/
def nibbleAt (types : UInt32) (slot : Slot) : UInt8 :=
  ((types >>> (4 * slot.val).toUInt32) &&& 0xF).toUInt8

/-- The type of a slot in a type vector. -/
def at? (types : UInt32) (slot : Slot) : Option SlotType :=
  ofRaw? (nibbleAt types slot)

/-- A code has four bits. -/
theorem raw_lt (t : SlotType) : t.raw.toNat < 16 := by
  cases t <;> decide

/-- The type of a type's code is that type. -/
@[simp] theorem ofRaw?_raw (t : SlotType) : ofRaw? t.raw = some t := by
  cases t <;> rfl

/-- The type vector as a number, one hexadecimal digit for each slot. -/
theorem toNat_pack (types : Slots SlotType) : (pack types).toNat
    = types.slot0.raw.toNat + 16 * types.slot1.raw.toNat + 256 * types.slot2.raw.toNat
      + 4096 * types.slot3.raw.toNat := by
  have h0 := raw_lt types.slot0
  have h1 := raw_lt types.slot1
  have h2 := raw_lt types.slot2
  have h3 := raw_lt types.slot3
  -- a digit is put in front of what is below it by a disjoint union
  have hor : ∀ {a b : Nat} (i : Nat), b < 2 ^ i → b ||| a <<< i = b + a * 2 ^ i := by
    intro a b i hb
    rw [Nat.or_comm, ← Nat.shiftLeft_add_eq_or_of_lt hb, Nat.shiftLeft_eq, Nat.add_comm]
  have hshift : ∀ (t : SlotType) (n : UInt32), n.toNat ≤ 12 →
      (t.raw.toUInt32 <<< n).toNat = t.raw.toNat <<< n.toNat := by
    intro t n hn
    have ht := raw_lt t
    rw [UInt32.toNat_shiftLeft, UInt8.toNat_toUInt32, Nat.mod_eq_of_lt (by omega : n.toNat < 32)]
    refine Nat.mod_eq_of_lt ?_
    rw [Nat.shiftLeft_eq]
    calc t.raw.toNat * 2 ^ n.toNat ≤ 15 * 2 ^ 12 :=
          Nat.mul_le_mul (by omega) (Nat.pow_le_pow_right (by omega) hn)
      _ < 2 ^ 32 := by decide
  unfold pack
  rw [UInt32.toNat_or, UInt32.toNat_or, UInt32.toNat_or, hshift _ 4 (by decide),
    hshift _ 8 (by decide), hshift _ 12 (by decide), UInt8.toNat_toUInt32]
  show ((types.slot0.raw.toNat ||| types.slot1.raw.toNat <<< 4) ||| types.slot2.raw.toNat <<< 8)
    ||| types.slot3.raw.toNat <<< 12 = _
  rw [hor 4 (by omega), hor 8 (by omega), hor 12 (by omega)]
  omega

/-- A type vector has in each slot the type that was packed there. -/
@[simp] theorem at?_pack (types : Slots SlotType) (slot : Slot) :
    at? (pack types) slot = some (types.get slot) := by
  have h0 := raw_lt types.slot0
  have h1 := raw_lt types.slot1
  have h2 := raw_lt types.slot2
  have h3 := raw_lt types.slot3
  -- the code of a slot is one hexadecimal digit of the vector
  have hdigit : (nibbleAt (pack types) slot).toNat
      = (pack types).toNat / 2 ^ (4 * slot.val) % 16 := by
    have hslot : (4 * slot.val).toUInt32.toNat % 32 = 4 * slot.val := by
      have := slot.isLt
      simp only [Nat.toUInt32_eq, UInt32.toNat_ofNat']
      omega
    unfold nibbleAt
    rw [UInt32.toNat_toUInt8, UInt32.toNat_and, UInt32.toNat_shiftRight, hslot,
      Nat.shiftRight_eq_div_pow]
    show ((pack types).toNat / 2 ^ (4 * slot.val) &&& 2 ^ 4 - 1) % 256 = _
    rw [Nat.and_two_pow_sub_one_eq_mod]
    omega
  -- and that digit is the one that was put there, since the digits below it are too small to carry
  have hraw : nibbleAt (pack types) slot = (types.get slot).raw := by
    refine UInt8.toNat_inj.1 ?_
    rw [hdigit, toNat_pack]
    clear hdigit
    match slot with
    | 0 => show _ / 1 % 16 = types.slot0.raw.toNat; omega
    | 1 => show _ / 16 % 16 = types.slot1.raw.toNat; omega
    | 2 => show _ / 256 % 16 = types.slot2.raw.toNat; omega
    | 3 => show _ / 4096 % 16 = types.slot3.raw.toNat; omega
  rw [at?, hraw, ofRaw?_raw]

end SlotType

end TeeClient
