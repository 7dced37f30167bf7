/-!
# Byte strings and hexadecimal text

`Bytes` are lists of bytes. The module holds the little-endian form of a 32-bit word, the two
hexadecimal forms that texts and messages use (a fixed number of digits, and as few digits as
possible behind `0x`), and `overlay`, the one way in which stored bytes are changed.
-/

namespace TeeClient

/-- A string of bytes. -/
abbrev Bytes := List UInt8

namespace Hex

/-- The last `width` hexadecimal digits of a number, high digit first. -/
def fixed : Nat → Nat → List Char
  | 0, _ => []
  | width + 1, n => fixed width (n / 16) ++ [Nat.digitChar (n % 16)]

/-- A number with as few digits as possible, behind `0x`. -/
def marked (n : Nat) : String :=
  "0x" ++ String.ofList (Nat.toDigits 16 n)

/-- A 32-bit word as eight digits behind `0x`. -/
def word (w : UInt32) : String :=
  "0x" ++ String.ofList (fixed 8 w.toNat)

/-- The value of an ASCII hexadecimal digit of either case. -/
def value? (c : UInt8) : Option Nat :=
  let n := c.toNat
  if 48 ≤ n ∧ n ≤ 57 then some (n - 48)
  else if 97 ≤ n ∧ n ≤ 102 then some (n - 87)
  else if 65 ≤ n ∧ n ≤ 70 then some (n - 55)
  else none

end Hex

namespace Bytes

/-- The four bytes of a word, low byte first. -/
def ofWord (w : UInt32) : Bytes :=
  [w.toUInt8, (w >>> 8).toUInt8, (w >>> 16).toUInt8, (w >>> 24).toUInt8]

/-- The two bytes of a half word, low byte first. -/
def ofHalf (w : UInt16) : Bytes := [w.toUInt8, (w >>> 8).toUInt8]

/-- Two lower-case digits for each byte. -/
def hex (b : Bytes) : String :=
  String.ofList (b.flatMap fun x => Hex.fixed 2 x.toNat)

/-- `old` with the bytes from `offset` on replaced by `data`. What would reach beyond the end of
`old` is dropped, so the length never changes. -/
def overlay (old : Bytes) (offset : Nat) (data : Bytes) : Bytes :=
  (old.take offset ++ data ++ old.drop (offset + data.length)).take old.length

/-- Overlaying never changes the length. -/
@[simp] theorem length_overlay (old : Bytes) (offset : Nat) (data : Bytes) :
    (old.overlay offset data).length = old.length := by
  simp only [overlay, List.length_take, List.length_append, List.length_drop]
  omega

/-- A byte that is not overlaid stays. -/
theorem getElem?_overlay_of_outside {old : Bytes} {offset i : Nat} {data : Bytes}
    (h : i < offset ∨ offset + data.length ≤ i) : (old.overlay offset data)[i]? = old[i]? := by
  by_cases hi : i < old.length
  · simp only [overlay, List.getElem?_take, hi, if_true, List.append_assoc]
    rcases h with hbefore | hbehind
    · rw [List.getElem?_append_left (by simp only [List.length_take]; omega),
        List.getElem?_take_of_lt hbefore]
    · rw [List.getElem?_append_right (by simp only [List.length_take]; omega),
        List.getElem?_append_right (by simp only [List.length_take]; omega), List.getElem?_drop]
      congr 1
      simp only [List.length_take]
      omega
  · rw [List.getElem?_eq_none (by rw [length_overlay]; omega), List.getElem?_eq_none (by omega)]

/-- A byte that is overlaid is the new one. -/
theorem getElem?_overlay_of_inside {old : Bytes} {offset i : Nat} {data : Bytes}
    (hle : offset ≤ i) (hlt : i < offset + data.length) (hi : i < old.length) :
    (old.overlay offset data)[i]? = data[i - offset]? := by
  have htake : (old.take offset).length = offset := by
    rw [List.length_take]
    omega
  simp only [overlay, List.getElem?_take, hi, if_true, List.append_assoc]
  rw [List.getElem?_append_right (by omega), htake, List.getElem?_append_left (by omega)]

/-- Overlaying keeps apart no bytes that agree. -/
theorem getElem?_overlay_congr {old old' : Bytes} {i : Nat} (hlen : old'.length = old.length)
    (h : old'[i]? = old[i]?) (offset : Nat) (data : Bytes) :
    (old'.overlay offset data)[i]? = (old.overlay offset data)[i]? := by
  by_cases hout : i < offset ∨ offset + data.length ≤ i
  · rw [getElem?_overlay_of_outside hout, getElem?_overlay_of_outside hout, h]
  · by_cases hi : i < old.length
    · rw [getElem?_overlay_of_inside (by omega) (by omega) (hlen ▸ hi),
        getElem?_overlay_of_inside (by omega) (by omega) hi]
    · rw [List.getElem?_eq_none (by rw [length_overlay]; omega),
        List.getElem?_eq_none (by rw [length_overlay]; omega)]

end Bytes

end TeeClient
