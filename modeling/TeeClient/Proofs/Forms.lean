import Mathlib.Data.List.GetD
import TeeClient.Proofs.Layout
import TeeClient.Proofs.Spelling.Digits

/-!
# The forms of an identity

An identity has a form of fields, one of sixteen bytes and one of text. Each says everything about
it. The sixteen bytes are the link between the other two: the fields are read off them as numbers
with the high byte first, and the text is their digits, two for each byte, with dashes between.
Case is all that a text can add to that.

Main statements:

* `Uuid.ofBytes_toBytes`, `Uuid.toBytes_ofBytes`: fields and bytes are two forms of the same;
* `Uuid.joined_nibbles`, `Uuid.nibbles_joined`: bytes and digits are two forms of the same;
* `Uuid.chars_eq_dashed`: the text is the digits of the bytes with dashes between;
* `identity_forms_agree`: the round trips between the three forms.
-/

namespace TeeClient

/-! ## Fields and bytes -/

namespace Bytes

/-- As many bytes that make the same number are the same. -/
theorem number_injective {xs ys : Bytes} (hlength : xs.length = ys.length)
    (h : number xs = number ys) : xs = ys := by
  induction xs generalizing ys with
  | nil => exact (List.length_eq_zero_iff.1 hlength.symm).symm
  | cons x xs ih =>
    cases ys with
    | nil => simp at hlength
    | cons y ys =>
      have hx := x.toNat_lt
      have hy := y.toNat_lt
      simp only [number] at h
      have hhead : x = y := UInt8.toNat_inj.1 (by omega)
      have htail : xs = ys := ih (by simpa using hlength) (by omega)
      rw [hhead, htail]

/-- A byte in front of a number that ends below it, in a word that has room for both. -/
theorem shiftLeft_or (x : UInt8) {n i bound : Nat} (hroom : 256 <<< i ≤ bound) (hn : n < 1 <<< i) :
    x.toNat <<< i % bound ||| n = x.toNat <<< i + n := by
  have hx : x.toNat < 256 := x.toNat_lt
  rw [Nat.shiftLeft_eq] at hroom hn
  have hlt : x.toNat <<< i < bound := by
    rw [Nat.shiftLeft_eq]
    exact Nat.lt_of_lt_of_le (Nat.mul_lt_mul_of_pos_right hx (Nat.two_pow_pos i)) hroom
  -- the two have no bit in common, so putting them together is adding them
  rw [Nat.mod_eq_of_lt hlt, Nat.shiftLeft_add_eq_or_of_lt (by simpa using hn)]

/-- Two bytes in a half word, high byte first. -/
theorem ofHalf_join (a b : UInt8) : ofHalf (a.toUInt16 <<< 8 ||| b.toUInt16) = [b, a] := by
  have hb := b.toNat_lt
  refine number_injective rfl ?_
  rw [number_ofHalf]
  simp only [UInt16.toNat_or, UInt16.toNat_shiftLeft, UInt8.toNat_toUInt16, UInt16.reduceToNat,
    Nat.reduceMod, number]
  rw [shiftLeft_or a (by decide) hb]
  omega

/-- Four bytes in a word, high byte first. -/
theorem ofWord_join (a b c d : UInt8) :
    ofWord (a.toUInt32 <<< 24 ||| b.toUInt32 <<< 16 ||| c.toUInt32 <<< 8 ||| d.toUInt32)
      = [d, c, b, a] := by
  have hb := b.toNat_lt
  have hc := c.toNat_lt
  have hd := d.toNat_lt
  refine number_injective rfl ?_
  rw [number_ofWord]
  simp only [UInt32.toNat_or, UInt32.toNat_shiftLeft, UInt8.toNat_toUInt32, UInt32.reduceToNat,
    Nat.reduceMod, Nat.or_assoc, number]
  -- from the low end, since each byte is put in front of what is there already
  rw [shiftLeft_or c (by decide) hd, shiftLeft_or b (by decide) (by omega),
    shiftLeft_or a (by decide) (by omega)]
  omega

/-- A vector of bytes is the list of its entries. -/
theorem toList_eq_ofFn {n : Nat} (v : Vector UInt8 n) : v.toList = List.ofFn fun i => v[i] := by
  rw [← Vector.toList_ofFn]
  exact congrArg Vector.toList Vector.ofFn_getElem.symm

/-- A half word is known by its bytes. -/
theorem ofHalf_injective {v w : UInt16} (h : ofHalf v = ofHalf w) : v = w := by
  rw [← half_ofHalf v, h, half_ofHalf]

/-- A word is known by its bytes. -/
theorem ofWord_injective {v w : UInt32} (h : ofWord v = ofWord w) : v = w := by
  rw [← word_ofWord v, h, word_ofWord]

end Bytes

namespace Uuid

/-- The bytes are those of the fields, each field with its high byte first. -/
theorem toList_toBytes (u : Uuid) : u.toBytes.toList = (Bytes.ofWord u.timeLow).reverse
    ++ (Bytes.ofHalf u.timeMid).reverse ++ (Bytes.ofHalf u.timeHiAndVersion).reverse
    ++ u.node.toList := by
  rw [Bytes.toList_eq_ofFn u.node]
  rfl

/-- An identity can be read from its bytes. -/
theorem ofBytes_toBytes (u : Uuid) : ofBytes u.toBytes = u := by
  have hlow : (ofBytes u.toBytes).timeLow = u.timeLow :=
    Bytes.ofWord_injective (Bytes.ofWord_join _ _ _ _)
  have hmid : (ofBytes u.toBytes).timeMid = u.timeMid :=
    Bytes.ofHalf_injective (Bytes.ofHalf_join _ _)
  have hhigh : (ofBytes u.toBytes).timeHiAndVersion = u.timeHiAndVersion :=
    Bytes.ofHalf_injective (Bytes.ofHalf_join _ _)
  have hnode : (ofBytes u.toBytes).node = u.node := by
    rw [← Vector.toList_inj, Bytes.toList_eq_ofFn u.node]
    rfl
  exact (Uuid.mk.injEq _ _ _ _ _ _ _ _).mpr ⟨hlow, hmid, hhigh, hnode⟩

/-- Bytes can be read from their identity. -/
theorem toBytes_ofBytes (b : Vector UInt8 16) : (ofBytes b).toBytes = b := by
  -- each field has the bytes that it was put together from
  have hlow : Bytes.ofWord (ofBytes b).timeLow = [b[3], b[2], b[1], b[0]] :=
    Bytes.ofWord_join _ _ _ _
  have hmid : Bytes.ofHalf (ofBytes b).timeMid = [b[5], b[4]] := Bytes.ofHalf_join _ _
  have hhigh : Bytes.ofHalf (ofBytes b).timeHiAndVersion = [b[7], b[6]] := Bytes.ofHalf_join _ _
  rw [← Vector.toList_inj, toList_toBytes, hlow, hmid, hhigh, Bytes.toList_eq_ofFn b]
  rfl

end Uuid

/-! ## Bytes and digits -/

namespace Hex

/-- The digits of some bytes, two for each, the high one first. -/
def nibbles (b : Bytes) : List Nat := b.flatMap fun x => [x.toNat / 16, x.toNat % 16]

/-- Each of the `nibbles` is a digit. -/
theorem lt_of_mem_nibbles {b : Bytes} {n : Nat} (h : n ∈ nibbles b) : n < 16 := by
  obtain ⟨x, -, hx⟩ := List.mem_flatMap.1 h
  have hlt := x.toNat_lt
  simp only [List.mem_cons, List.not_mem_nil, or_false] at hx
  omega

/-- There are two `nibbles` for each byte. -/
theorem length_nibbles (b : Bytes) : (nibbles b).length = 2 * b.length := by
  simp [nibbles, List.length_flatMap, Nat.mul_comm]

/-- The digits of a byte are at twice its place. -/
theorem getD_nibbles (b : Bytes) (i : Nat) :
    (nibbles b).getD (2 * i) 0 = (b.getD i 0).toNat / 16 ∧
      (nibbles b).getD (2 * i + 1) 0 = (b.getD i 0).toNat % 16 := by
  induction b generalizing i with
  | nil => simp [nibbles]
  | cons x b ih =>
    cases i with
    | zero => simp [nibbles]
    | succ i => exact ih i

/-- A number has as many bytes' worth of digits as it has bytes. -/
theorem fixed_number (b : Bytes) :
    fixed (2 * b.length) (Bytes.number b) = (nibbles b.reverse).map Nat.digitChar := by
  induction b with
  | nil => rfl
  | cons x b ih =>
    have hx := x.toNat_lt
    have hrest : (x.toNat + 256 * Bytes.number b) / 16 / 16 = Bytes.number b := by omega
    have hhigh : (x.toNat + 256 * Bytes.number b) / 16 % 16 = x.toNat / 16 := by omega
    have hlow : (x.toNat + 256 * Bytes.number b) % 16 = x.toNat % 16 := by omega
    -- the low byte gives the last two digits
    rw [List.length_cons, Nat.mul_add]
    simp only [fixed, Bytes.number, hrest, hhigh, hlow, ih]
    simp [nibbles]

/-- A character that is written for a digit is in ASCII. -/
theorem digitChar_ascii {n : Nat} (h : n < 16) : (Nat.digitChar n).toNat ≤ 127 :=
  (by decide : ∀ n < 16, (Nat.digitChar n).toNat ≤ 127) n h

/-- A character that is written for a digit is no dash. -/
theorem digitChar_ne_dash {n : Nat} (h : n < 16) : Nat.digitChar n ≠ '-' :=
  (by decide : ∀ n < 16, Nat.digitChar n ≠ '-') n h

/-- A character that is written for a digit is in lower case. -/
theorem toLower_digitChar {n : Nat} (h : n < 16) : (Nat.digitChar n).toLower = Nat.digitChar n :=
  (by decide : ∀ n < 16, (Nat.digitChar n).toLower = Nat.digitChar n) n h

end Hex

namespace Uuid

variable {d : List Nat}

/-- The bytes of thirty-two digits. -/
def joined (d : List Nat) : Vector UInt8 16 :=
  .ofFn fun i => UInt8.ofNat (16 * d.getD (2 * i) 0 + d.getD (2 * i + 1) 0)

/-- An identity is that of the bytes of its digits. -/
theorem ofDigits_eq (d : List Nat) : ofDigits d = ofBytes (joined d) := rfl

/-- Bytes can be read from their digits. -/
theorem joined_nibbles (b : Vector UInt8 16) : joined (Hex.nibbles b.toList) = b := by
  refine Vector.ext fun i hi => ?_
  obtain ⟨hhigh, hlow⟩ := Hex.getD_nibbles b.toList i
  have hget : b.toList.getD i 0 = b[i] := by simp [hi]
  rw [joined, Vector.getElem_ofFn, hhigh, hlow, hget, Nat.div_add_mod]
  exact UInt8.ofNat_toNat

/-- Digits can be read from their bytes. -/
theorem nibbles_joined (hlength : d.length = 32) (hd : ∀ n ∈ d, n < 16) :
    Hex.nibbles (joined d).toList = d := by
  have hlt : ∀ j, d.getD j 0 < 16 := fun j => by
    rcases Nat.lt_or_ge j d.length with hj | hj
    · rw [List.getD_eq_getElem d 0 hj]
      exact hd _ (List.getElem_mem hj)
    · rw [List.getD_eq_default d 0 hj]
      decide
  have hbyte : ∀ i < 16, ((joined d).toList.getD i 0).toNat
      = 16 * d.getD (2 * i) 0 + d.getD (2 * i + 1) 0 := fun i hi => by
    have hhigh := hlt (2 * i)
    have hlow := hlt (2 * i + 1)
    have hget : (joined d).toList.getD i 0
        = UInt8.ofNat (16 * d.getD (2 * i) 0 + d.getD (2 * i + 1) 0) := by simp [joined, hi]
    rw [hget, UInt8.toNat_ofNat']
    omega
  have hsize : (Hex.nibbles (joined d).toList).length = 32 := by simp [Hex.length_nibbles]
  refine List.ext_getElem (hsize.trans hlength.symm) fun j hj hj' => ?_
  rw [← List.getD_eq_getElem _ 0 hj, ← List.getD_eq_getElem _ 0 hj']
  -- the digit is the high one of its byte or the low one
  obtain ⟨i, rfl | rfl⟩ : ∃ i, j = 2 * i ∨ j = 2 * i + 1 := ⟨j / 2, by omega⟩
  · have hlow := hlt (2 * i + 1)
    rw [(Hex.getD_nibbles (joined d).toList i).1, hbyte i (by omega)]
    omega
  · have hlow := hlt (2 * i + 1)
    rw [(Hex.getD_nibbles (joined d).toList i).2, hbyte i (by omega)]
    omega

/-! ## Digits and texts -/

/-- The text is the digits of the bytes with dashes between. -/
theorem chars_eq_dashed (u : Uuid) :
    u.chars = dashed '-' ((Hex.nibbles u.toBytes.toList).map Nat.digitChar) := by
  -- a field is the number of its bytes, so the digits of the two are the same
  have hlow : Hex.fixed 8 u.timeLow.toNat
      = (Hex.nibbles (Bytes.ofWord u.timeLow).reverse).map Nat.digitChar := by
    rw [← Bytes.number_ofWord]
    exact Hex.fixed_number (Bytes.ofWord u.timeLow)
  have hhalf : ∀ w : UInt16, Hex.fixed 4 w.toNat
      = (Hex.nibbles (Bytes.ofHalf w).reverse).map Nat.digitChar := fun w => by
    rw [← Bytes.number_ofHalf]
    exact Hex.fixed_number (Bytes.ofHalf w)
  have hnode : ∀ b : Bytes, (b.flatMap fun x => Hex.fixed 2 x.toNat)
      = (Hex.nibbles b).map Nat.digitChar := fun b => by
    have hbyte : ∀ x : UInt8, Hex.fixed 2 x.toNat
        = [Nat.digitChar (x.toNat / 16), Nat.digitChar (x.toNat % 16)] :=
      fun x => Hex.fixed_number [x]
    simp [Hex.nibbles, List.map_flatMap, hbyte]
  rw [chars, hlow, hhalf, hhalf, hnode, hnode, toList_toBytes, Bytes.toList_eq_ofFn u.node]
  rfl

/-- A text that spells an identity is in ASCII. -/
theorem Spells.toList_eq {s : String} (h : Spells (Bytes.ofText s)) :
    s.toList = (Bytes.ofText s).map Char.ofUInt8 := by
  have hascii : ∀ c ∈ s.toList, c.toNat ≤ 127 := fun c hc => by
    -- the first byte of any other character would be a misfit
    by_contra hgt
    obtain ⟨front, back, hs⟩ := List.append_of_mem hc
    exact (spells_iff.1 h).2 _ (misfit_of_toNat_gt hs (Nat.lt_of_not_le hgt))
  have hback : ∀ c ∈ s.toList, Char.ofUInt8 c.toUInt8 = c := fun c hc => by
    have hlt : c.val.toNat < 2 ^ 8 := Nat.lt_of_le_of_lt (hascii c hc) (by decide)
    refine Char.ext (UInt32.toNat_inj.1 ?_)
    show c.val.toUInt8.toUInt32.toNat = c.val.toNat
    rw [UInt8.toNat_toUInt32, UInt32.toNat_toUInt8, Nat.mod_eq_of_lt hlt]
  have hmap : s.toList.map (Char.ofUInt8 ∘ Char.toUInt8) = s.toList :=
    (List.map_congr_left hback).trans (List.map_id _)
  rw [Bytes.ofText_eq, Bytes.utf8_of_ascii hascii, List.map_map, hmap]

/-- A text that spells an identity is, in lower case, the lower-case letters of its bytes. -/
theorem Spells.toList_toLower {s : String} (h : Spells (Bytes.ofText s)) :
    s.toLower.toList = (Bytes.ofText s).map Hex.letter := by
  show (s.map Char.toLower).toList = _
  rw [String.toList_map, h.toList_eq, List.map_map]
  rfl

/-- The dashes of a text that spells an identity are where they belong. -/
theorem Spells.dash_iff {s : String} (h : Spells (Bytes.ofText s)) (position : Nat) :
    s.toList[position]? = some '-' ↔ DashAt position := by
  rw [h.toList_eq, List.getElem?_map]
  constructor
  · intro hget
    obtain ⟨c, hc, hdash⟩ := Option.map_eq_some_iff.1 hget
    rcases (h.fits position c hc).reading_cases with ⟨hhere, -⟩ | ⟨-, n, hn, -⟩
    · exact hhere
    · obtain ⟨hlt, hletter⟩ := Hex.letter_of_value? hn
      rw [Hex.letter, hdash] at hletter
      exact absurd hletter.symm (Hex.digitChar_ne_dash hlt)
  · intro hdash
    have hlt : position < (Bytes.ofText s).length := by
      rw [h.length]
      unfold DashAt at hdash
      omega
    have hget := List.getElem?_eq_getElem hlt
    rcases (h.fits position _ hget).reading_cases with ⟨-, hc, -⟩ | ⟨hno, -⟩
    · rw [hget, hc]
      rfl
    · exact absurd hdash hno

/-- A text is made of dashes and digits. -/
theorem mem_chars {u : Uuid} {c : Char} (h : c ∈ u.chars) :
    c = '-' ∨ ∃ n < 16, c = Nat.digitChar n := by
  rw [chars_eq_dashed] at h
  rcases eq_or_mem_of_mem_dashed h with hdash | hmem
  · exact .inl hdash
  · obtain ⟨n, hn, rfl⟩ := List.mem_map.1 hmem
    exact .inr ⟨n, Hex.lt_of_mem_nibbles hn, rfl⟩

/-- The bytes of the text of an identity. -/
theorem ofText_text (u : Uuid) : Bytes.ofText u.text
    = dashed '-'.toUInt8 ((Hex.nibbles u.toBytes.toList).map Hex.code) := by
  have hascii : ∀ c ∈ u.chars, c.toNat ≤ 127 := fun c hc => by
    rcases mem_chars hc with rfl | ⟨n, hn, rfl⟩
    · decide
    · exact Hex.digitChar_ascii hn
  rw [Bytes.ofText_eq, text, String.toList_ofList, Bytes.utf8_of_ascii hascii, chars_eq_dashed,
    map_dashed, List.map_map]
  rfl

/-- The text of an identity has thirty-six bytes. -/
theorem length_ofText_text (u : Uuid) : (Bytes.ofText u.text).length = 36 := by
  rw [ofText_text]
  exact length_dashed (by simp [Hex.length_nibbles])

/-- A scan of the text of an identity reads the digits of its bytes. -/
theorem digits_ofText_text (u : Uuid) :
    digits 0 (Bytes.ofText u.text) = .ok (Hex.nibbles u.toBytes.toList) := by
  rw [ofText_text]
  exact digits_dashed (by simp [Hex.length_nibbles]) fun n hn => Hex.lt_of_mem_nibbles hn

/-- An identity can be read from its text. -/
theorem ofText?_text (u : Uuid) : ofText? u.text = .ok u := by
  refine ofTextBytes?_eq_ok_iff.2 ⟨length_ofText_text u, _, digits_ofText_text u, ?_⟩
  rw [ofDigits_eq, joined_nibbles, ofBytes_toBytes]

/-- The text of an identity spells it. -/
theorem spells_text (u : Uuid) : Spells (Bytes.ofText u.text) :=
  (exists_ofTextBytes?_eq_ok_iff _).1 ⟨u, ofText?_text u⟩

/-- The text of an identity is in lower case. -/
theorem toLower_text (u : Uuid) : u.text.toLower = u.text := by
  have hlower : ∀ c ∈ u.chars, c.toLower = c := fun c hc => by
    rcases mem_chars hc with rfl | ⟨n, hn, rfl⟩
    · rfl
    · exact Hex.toLower_digitChar hn
  refine String.toList_inj.1 ?_
  show ((String.ofList u.chars).map Char.toLower).toList = (String.ofList u.chars).toList
  rw [String.toList_map, String.toList_ofList]
  exact (List.map_congr_left hlower).trans (List.map_id _)

/-- The text of the identity that is read from a text is that text in lower case. -/
theorem text_eq_toLower {s : String} {u : Uuid} (h : ofText? s = .ok u) : u.text = s.toLower := by
  rw [ofText?_eq] at h
  have hspells : Spells (Bytes.ofText s) := (exists_ofTextBytes?_eq_ok_iff _).1 ⟨u, h⟩
  obtain ⟨hlength, d, hd, rfl⟩ := ofTextBytes?_eq_ok_iff.1 h
  have hcount : d.length = 32 := by
    rw [length_of_digits hd, hlength]
    decide
  -- the text of what was read has the digits that were read, so the two differ in case at most
  have hsame : digits 0 (Bytes.ofText (ofDigits d).text) = .ok d := by
    rw [digits_ofText_text, ofDigits_eq, toBytes_ofBytes, nibbles_joined hcount (lt_of_digits hd)]
  have hletters := map_letter_eq_of_digits hsame hd
    ((length_ofText_text _).trans hlength.symm)
  rw [← toLower_text, ← String.toList_inj, (spells_text _).toList_toLower, hspells.toList_toLower,
    hletters]

end Uuid

open Uuid in
/-- **One identity in three forms.** An identity is read from its text and from its bytes, and bytes
from their identity. The text is the digits of the bytes, two in lower case for each, with dashes at
8, 13, 18 and 23. A text that is read is, in lower case, the text of what is read from it. -/
theorem identity_forms_agree :
    (∀ u : Uuid, ofText? u.text = .ok u) ∧
    (∀ u : Uuid, ofBytes u.toBytes = u) ∧
    (∀ u : Uuid, (∀ position, u.text.toList[position]? = some '-' ↔ DashAt position) ∧
      u.text.toList.filter (· ≠ '-') = u.toBytes.toList.flatMap fun x =>
        [Nat.digitChar (x.toNat / 16), Nat.digitChar (x.toNat % 16)]) ∧
    (∀ b : Vector UInt8 16, (ofBytes b).toBytes = b) ∧
    (∀ (s : String) (u : Uuid), ofText? s = .ok u → u.text = s.toLower) := by
  refine ⟨ofText?_text, ofBytes_toBytes, fun u => ⟨(spells_text u).dash_iff, ?_⟩, toBytes_ofBytes,
    fun s u => text_eq_toLower⟩
  have hno : ∀ c ∈ (Hex.nibbles u.toBytes.toList).map Nat.digitChar, c ≠ '-' := fun c hc => by
    obtain ⟨n, hn, rfl⟩ := List.mem_map.1 hc
    exact Hex.digitChar_ne_dash (Hex.lt_of_mem_nibbles hn)
  rw [text, String.toList_ofList, chars_eq_dashed, filter_dashed hno]
  simp [Hex.nibbles, List.map_flatMap]

open Uuid in
/-- A text with letters of both cases, and zeros at the head of each field. -/
theorem identity_forms_agree_mixed :
    ofText? "000A32e0-0D9E-006f-0806-00473C5c0980" = .ok
      ⟨0x000a32e0, 0x0d9e, 0x006f, #v[0x08, 0x06, 0x00, 0x47, 0x3c, 0x5c, 0x09, 0x80]⟩ ∧
    text ⟨0x000a32e0, 0x0d9e, 0x006f, #v[0x08, 0x06, 0x00, 0x47, 0x3c, 0x5c, 0x09, 0x80]⟩
      = "000A32e0-0D9E-006f-0806-00473C5c0980".toLower := by
  have hread : ofText? "000A32e0-0D9E-006f-0806-00473C5c0980" = .ok
      ⟨0x000a32e0, 0x0d9e, 0x006f, #v[0x08, 0x06, 0x00, 0x47, 0x3c, 0x5c, 0x09, 0x80]⟩ := by
    decide +kernel
  exact ⟨hread, identity_forms_agree.2.2.2.2 _ _ hread⟩

end TeeClient
