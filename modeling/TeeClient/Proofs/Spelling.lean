import Mathlib.Data.Nat.Find
import TeeClient.Uuid.Text

/-!
# The spelling of an identity

A text spells an identity if it has thirty-six bytes in UTF-8, with dashes at the byte positions 8,
13, 18 and 23 and hexadecimal digits of either case everywhere else. These texts are read and no
others; of any other text it is said what is wrong with it: its length, or the first byte that is
not what belongs at its position.

Main statements:

* `Uuid.digits_cases`: a scan goes on while the bytes fit, and stops at the first that does not;
* `Uuid.ofTextBytes?_cases`: what becomes of a text, by its length and its first misfit;
* `texts_read_by_grammar`: which texts are read, and what is reported of the others.
-/

namespace TeeClient

namespace Bytes

/-- The bytes of a text in UTF-8. -/
def ofText (s : String) : Bytes := s.toUTF8.data.toList

/-- The bytes of a text are those of its characters, one behind the other. -/
theorem ofText_eq (s : String) : ofText s = s.toList.flatMap String.utf8EncodeChar := by
  rw [ofText, String.toUTF8_eq_toByteArray, ← String.utf8Encode_toList]
  exact List.toList_data_toByteArray

/-- The number of bytes of a text is its size. -/
theorem length_ofText (s : String) : (ofText s).length = s.utf8ByteSize := rfl

/-- The bytes of characters in ASCII are their codes. -/
theorem utf8_of_ascii {cs : List Char} (h : ∀ c ∈ cs, c.toNat ≤ 127) :
    cs.flatMap String.utf8EncodeChar = cs.map Char.toUInt8 := by
  induction cs with
  | nil => rfl
  | cons c cs ih =>
    have hc : c.val.toNat ≤ 127 := h c List.mem_cons_self
    rw [List.flatMap_cons, List.map_cons, ih fun d hd => h d (List.mem_cons_of_mem c hd),
      String.utf8EncodeChar, if_pos hc]
    rfl

/-- A character outside ASCII has no byte that an ASCII character could have. -/
theorem lt_of_mem_utf8EncodeChar {c : Char} (hc : 127 < c.toNat) {b : UInt8}
    (hb : b ∈ String.utf8EncodeChar c) : 127 < b.toNat := by
  have hv : ¬ c.val.toNat ≤ 127 := Nat.not_le.2 hc
  rw [String.utf8EncodeChar, if_neg hv] at hb
  -- two, three or four bytes: to each at least 128 is added
  split at hb
  · simp only [List.mem_cons, List.not_mem_nil, or_false] at hb
    obtain rfl | rfl := hb <;> simp only [UInt8.toNat_ofNat'] <;> omega
  · split at hb
    · simp only [List.mem_cons, List.not_mem_nil, or_false] at hb
      obtain rfl | rfl | rfl := hb <;> simp only [UInt8.toNat_ofNat'] <;> omega
    · simp only [List.mem_cons, List.not_mem_nil, or_false] at hb
      obtain rfl | rfl | rfl | rfl := hb <;> simp only [UInt8.toNat_ofNat'] <;> omega

end Bytes

namespace Hex

/-- The byte is an ASCII hexadecimal digit of either case. -/
def IsDigit (c : UInt8) : Prop :=
  ('0'.toNat ≤ c.toNat ∧ c.toNat ≤ '9'.toNat) ∨ ('a'.toNat ≤ c.toNat ∧ c.toNat ≤ 'f'.toNat) ∨
    ('A'.toNat ≤ c.toNat ∧ c.toNat ≤ 'F'.toNat)

instance (c : UInt8) : Decidable (IsDigit c) := inferInstanceAs (Decidable (_ ∨ _))

/-- The bytes that are digits are those that have a value. -/
theorem isSome_value?_iff (c : UInt8) : (value? c).isSome ↔ IsDigit c := by
  simp only [value?, IsDigit, Char.reduceToNat]
  repeat' split
  all_goals simp; omega

end Hex

namespace Uuid

/-! ## The grammar -/

/-- A dash belongs at the position. -/
def DashAt (position : Nat) : Prop :=
  position = 8 ∨ position = 13 ∨ position = 18 ∨ position = 23

instance (position : Nat) : Decidable (DashAt position) := inferInstanceAs (Decidable (_ ∨ _))

/-- The byte is what belongs at the position: a dash, or else a digit. -/
def Fits (position : Nat) (c : UInt8) : Prop :=
  if DashAt position then c.toNat = '-'.toNat else Hex.IsDigit c

instance (position : Nat) (c : UInt8) : Decidable (Fits position c) :=
  inferInstanceAs (Decidable (if DashAt position then _ else _))

/-- The bytes spell an identity. -/
structure Spells (raw : Bytes) : Prop where
  /-- There are thirty-six of them. -/
  length : raw.length = 36
  /-- Each is what belongs at its position. -/
  fits : ∀ position c, raw[position]? = some c → Fits position c

/-- The byte at the position is not what belongs there. -/
def Misfit (raw : Bytes) (position : Nat) : Prop :=
  ∃ c ∈ raw[position]?, ¬ Fits position c

instance (raw : Bytes) (position : Nat) : Decidable (Misfit raw position) :=
  inferInstanceAs (Decidable (∃ c ∈ raw[position]?, ¬ Fits position c))

/-- The byte at the position is the first that is not what belongs there. -/
structure FirstMisfit (raw : Bytes) (position : Nat) : Prop where
  /-- It is a misfit. -/
  misfit : Misfit raw position
  /-- No byte before it is. -/
  before : ∀ i < position, ¬ Misfit raw i

instance (raw : Bytes) (position : Nat) : Decidable (FirstMisfit raw position) :=
  decidable_of_iff (Misfit raw position ∧ ∀ i < position, ¬ Misfit raw i)
    ⟨fun h => ⟨h.1, h.2⟩, fun h => ⟨h.misfit, h.before⟩⟩

variable {raw : Bytes} {position : Nat} {c : UInt8}

/-- A text spells an identity if it has the right length and no misfit. -/
theorem spells_iff : Spells raw ↔ raw.length = 36 ∧ ∀ i, ¬ Misfit raw i := by
  constructor
  · rintro ⟨hlength, hfits⟩
    refine ⟨hlength, ?_⟩
    rintro i ⟨c, hget, hnot⟩
    exact hnot (hfits i c hget)
  · rintro ⟨hlength, hnone⟩
    refine ⟨hlength, fun i c hget => ?_⟩
    by_contra hnot
    exact hnone i ⟨c, hget, hnot⟩

/-- There is only one first misfit. -/
theorem FirstMisfit.unique {i j : Nat} (hi : FirstMisfit raw i) (hj : FirstMisfit raw j) :
    i = j := by
  rcases Nat.lt_trichotomy i j with hlt | rfl | hlt
  · exact absurd hi.misfit (hj.before i hlt)
  · rfl
  · exact absurd hj.misfit (hi.before j hlt)

/-- Where there is a misfit, there is a first one, there or before. -/
theorem Misfit.exists_first (h : Misfit raw position) : ∃ i ≤ position, FirstMisfit raw i := by
  classical
  have hsome : ∃ i, Misfit raw i := ⟨position, h⟩
  exact ⟨Nat.find hsome, Nat.find_min' hsome h, Nat.find_spec hsome,
    fun _ hlt => Nat.find_min hsome hlt⟩

/-- Only bytes of ASCII characters fit anywhere. -/
theorem Fits.toNat_le (h : Fits position c) : c.toNat ≤ 127 := by
  simp only [Fits, Hex.IsDigit, Char.reduceToNat] at h
  split at h <;> omega

/-- The first byte of a character outside ASCII is a misfit, wherever it stands. -/
theorem misfit_of_toNat_gt {s : String} {front back : List Char} {c : Char}
    (hs : s.toList = front ++ c :: back) (hc : 127 < c.toNat) :
    Misfit (Bytes.ofText s) (String.ofList front).utf8ByteSize := by
  -- the bytes of the characters before it take up as many positions
  have hfront : (String.ofList front).utf8ByteSize
      = (front.flatMap String.utf8EncodeChar).length := by
    rw [← Bytes.length_ofText, Bytes.ofText_eq, String.toList_ofList]
  obtain ⟨b, more, hb⟩ := List.exists_cons_of_ne_nil (@String.utf8EncodeChar_ne_nil c)
  refine ⟨b, ?_, fun hfits => ?_⟩
  · rw [Bytes.ofText_eq, hs, hfront, List.flatMap_append, List.flatMap_cons, hb]
    simp
  · have hlt := Bytes.lt_of_mem_utf8EncodeChar hc (hb ▸ List.mem_cons_self)
    exact absurd hfits.toNat_le (Nat.not_le.2 hlt)

/-! ## The scan -/

/-- A text is read from its bytes. -/
theorem ofText?_eq (s : String) : ofText? s = ofTextBytes? (Bytes.ofText s) := rfl

/-- What is wrong with a text whose first misfit is at the position. -/
def violation (position : Nat) : TextError :=
  if DashAt position then .missingSeparator position else .invalidDigit position

/-- What a byte adds to the digits that are read. -/
def reading (position : Nat) (c : UInt8) : List Nat :=
  if DashAt position then [] else (Hex.value? c).toList

/-- The separators are where dashes belong. -/
theorem mem_separators_iff (position : Nat) : position ∈ separators ↔ DashAt position := by
  simp [separators, DashAt]

/-- A byte that fits is a dash and adds nothing, or a digit and adds its value. -/
theorem Fits.reading_cases (h : Fits position c) :
    (DashAt position ∧ c = '-'.toUInt8 ∧ reading position c = []) ∨
      (¬ DashAt position ∧ ∃ digit, Hex.value? c = some digit ∧ reading position c = [digit]) := by
  by_cases hdash : DashAt position
  · have hc : c.toNat = '-'.toNat := by simpa [Fits, hdash] using h
    exact .inl ⟨hdash, UInt8.toNat_inj.1 hc, if_pos hdash⟩
  · have hdigit : (Hex.value? c).isSome := by
      simpa [Fits, hdash, Hex.isSome_value?_iff] using h
    obtain ⟨digit, hdigit⟩ := Option.isSome_iff_exists.1 hdigit
    exact .inr ⟨hdash, digit, hdigit, by simp [reading, hdash, hdigit]⟩

/-- The scan goes on behind a byte that fits. -/
theorem digits_cons_of_fits (h : Fits position c) (rest : Bytes) :
    digits position (c :: rest) = (digits (position + 1) rest).map (reading position c ++ ·) := by
  rcases h.reading_cases with ⟨hdash, hc, hread⟩ | ⟨hdash, digit, hdigit, hread⟩
  · rw [digits, if_pos ((mem_separators_iff position).2 hdash),
      if_pos (show c = 45 from hc), hread]
    cases digits (position + 1) rest <;> rfl
  · rw [digits, if_neg (mt (mem_separators_iff position).1 hdash), hdigit, hread]
    cases digits (position + 1) rest <;> rfl

/-- The scan stops at a byte that does not fit. -/
theorem digits_cons_of_not_fits (h : ¬ Fits position c) (rest : Bytes) :
    digits position (c :: rest) = .error (violation position) := by
  by_cases hdash : DashAt position
  · have hc : c ≠ 45 := by
      rintro rfl
      exact h (by simp [Fits, hdash])
    simp [digits, mem_separators_iff, violation, hdash, hc]
  · have hdigit : Hex.value? c = none := by
      simpa [Fits, hdash, ← Hex.isSome_value?_iff] using h
    simp [digits, mem_separators_iff, violation, hdash, hdigit]

/-- A scan whose bytes so far have fitted reads the rest if there is no misfit at all, and reports
the first one otherwise. -/
theorem digits_cases {front rest : Bytes} (hraw : front ++ rest = raw)
    (hfront : ∀ i < front.length, ¬ Misfit raw i) :
    ((∃ d, digits front.length rest = .ok d) ∧ ∀ i, ¬ Misfit raw i) ∨
      ∃ i, FirstMisfit raw i ∧ digits front.length rest = .error (violation i) := by
  -- the scan moves one byte after the other from what it has to read to what it has in front
  induction rest generalizing front with
  | nil =>
    refine .inl ⟨⟨[], rfl⟩, fun i => ?_⟩
    rintro ⟨c, hget, hnot⟩
    have hlt : i < front.length := by
      obtain ⟨h, -⟩ := List.getElem?_eq_some_iff.1 hget
      simpa [← hraw] using h
    exact hfront i hlt ⟨c, hget, hnot⟩
  | cons c rest ih =>
    have hget : raw[front.length]? = some c := by simp [← hraw]
    by_cases hfits : Fits front.length c
    · have hnext : ∀ i < (front ++ [c]).length, ¬ Misfit raw i := by
        intro i hi
        rcases Nat.lt_or_eq_of_le (Nat.le_of_lt_succ (by simpa using hi)) with hlt | rfl
        · exact hfront i hlt
        · rintro ⟨c', hget', hnot⟩
          rw [hget] at hget'
          cases hget'
          exact hnot hfits
      rw [digits_cons_of_fits hfits]
      have hlength : (front ++ [c]).length = front.length + 1 := by simp
      have hsplit : (front ++ [c]) ++ rest = raw := by simpa using hraw
      rcases ih hsplit hnext with ⟨⟨d, hd⟩, hnone⟩ | ⟨i, hfirst, herror⟩
      · rw [hlength] at hd
        exact .inl ⟨⟨_, by rw [hd]; rfl⟩, hnone⟩
      · rw [hlength] at herror
        exact .inr ⟨i, hfirst, by rw [herror]; rfl⟩
    · exact .inr ⟨front.length, ⟨⟨c, hget, hfits⟩, hfront⟩, digits_cons_of_not_fits hfits rest⟩

/-- What becomes of a text: it has another length, or it spells an identity and is read, or its
first misfit is reported. -/
theorem ofTextBytes?_cases (raw : Bytes) :
    (raw.length ≠ 36 ∧ ofTextBytes? raw = .error (.invalidLength raw.length)) ∨
    (Spells raw ∧ ∃ u, ofTextBytes? raw = .ok u) ∨
    (raw.length = 36 ∧ ∃ i, FirstMisfit raw i ∧ ofTextBytes? raw = .error (violation i)) := by
  by_cases hlength : raw.length = 36
  · simp only [ofTextBytes?, if_pos hlength]
    -- a scan of the whole text has nothing in front of it
    have hnothing : ∀ i < ([] : Bytes).length, ¬ Misfit raw i := by simp
    rcases digits_cases (List.nil_append raw) hnothing with ⟨⟨d, hd⟩, hnone⟩ | ⟨i, hfirst, herror⟩
    · have hread : (digits 0 raw).map ofDigits = .ok (ofDigits d) := congrArg (·.map ofDigits) hd
      exact .inr (.inl ⟨spells_iff.2 ⟨hlength, hnone⟩, ofDigits d, hread⟩)
    · have hread : (digits 0 raw).map ofDigits = .error (violation i) :=
        congrArg (·.map ofDigits) herror
      exact .inr (.inr ⟨hlength, i, hfirst, hread⟩)
  · exact .inl ⟨hlength, if_neg hlength⟩

/-- The texts that are read are those that spell an identity. -/
theorem exists_ofTextBytes?_eq_ok_iff (raw : Bytes) :
    (∃ u, ofTextBytes? raw = .ok u) ↔ Spells raw := by
  rcases ofTextBytes?_cases raw with ⟨hlength, h⟩ | ⟨hspells, h⟩ | ⟨-, i, hfirst, h⟩
  · simp only [h, reduceCtorEq, exists_false, false_iff]
    exact fun hspells => hlength hspells.length
  · exact iff_of_true h hspells
  · simp only [h, reduceCtorEq, exists_false, false_iff]
    exact fun hspells => (spells_iff.1 hspells).2 i hfirst.misfit

/-- What is reported of a text is its length, if that is wrong, and otherwise its first misfit. -/
theorem ofTextBytes?_eq_error_iff (raw : Bytes) (e : TextError) :
    ofTextBytes? raw = .error e ↔ (raw.length ≠ 36 ∧ .invalidLength raw.length = e) ∨
      (raw.length = 36 ∧ ∃ i, FirstMisfit raw i ∧ violation i = e) := by
  rcases ofTextBytes?_cases raw with ⟨hlength, h⟩ | ⟨hspells, u, h⟩ | ⟨hlength, i, hfirst, h⟩
  · simp [h, hlength]
  · obtain ⟨hlength, hnone⟩ := spells_iff.1 hspells
    have hnofirst : ∀ i, ¬ FirstMisfit raw i := fun i hfirst => hnone i hfirst.misfit
    simp [h, hlength, hnofirst]
  · -- the misfit that is reported is the only one that can be
    have honly : ∀ j, FirstMisfit raw j ↔ j = i :=
      fun j => ⟨fun hj => hj.unique hfirst, fun hj => hj ▸ hfirst⟩
    simp [h, hlength, honly]

/-- A violation is never that of the length. -/
theorem violation_ne_invalidLength (i length : Nat) : violation i ≠ .invalidLength length := by
  unfold violation
  split <;> simp

/-- A violation is a missing separator exactly where a dash belongs. -/
theorem violation_eq_missingSeparator_iff {i : Nat} :
    violation i = .missingSeparator position ↔ DashAt i ∧ i = position := by
  by_cases hdash : DashAt i <;> simp [violation, hdash]

/-- A violation is an invalid digit exactly where none belongs. -/
theorem violation_eq_invalidDigit_iff {i : Nat} :
    violation i = .invalidDigit position ↔ ¬ DashAt i ∧ i = position := by
  by_cases hdash : DashAt i <;> simp [violation, hdash]

end Uuid

open Uuid in
/-- **Reading by the grammar.** A text is read exactly if it spells an identity. Otherwise its
length is reported if it does not have thirty-six bytes, and the first byte that is not what belongs
at its position if it has: as a missing separator where a dash belongs, as an invalid digit anywhere
else. No character outside ASCII is passed over: the report is at its first byte, or before. -/
theorem texts_read_by_grammar (s : String) :
    ((∃ u, ofText? s = .ok u) ↔ Spells (Bytes.ofText s)) ∧
    (∀ length, ofText? s = .error (.invalidLength length) ↔
      s.utf8ByteSize ≠ 36 ∧ length = s.utf8ByteSize) ∧
    (∀ position, ofText? s = .error (.missingSeparator position) ↔
      s.utf8ByteSize = 36 ∧ FirstMisfit (Bytes.ofText s) position ∧ DashAt position) ∧
    (∀ position, ofText? s = .error (.invalidDigit position) ↔
      s.utf8ByteSize = 36 ∧ FirstMisfit (Bytes.ofText s) position ∧ ¬ DashAt position) ∧
    (∀ front c back, s.toList = front ++ c :: back → 127 < c.toNat →
      ∃ position ≤ (String.ofList front).utf8ByteSize, FirstMisfit (Bytes.ofText s) position) := by
  rw [ofText?_eq, ← Bytes.length_ofText]
  refine ⟨exists_ofTextBytes?_eq_ok_iff _, fun length => ?_, fun position => ?_, fun position => ?_,
    fun front c back hs hc => (misfit_of_toNat_gt hs hc).exists_first⟩
  · simp [ofTextBytes?_eq_error_iff, violation_ne_invalidLength, eq_comm]
  · simp [ofTextBytes?_eq_error_iff, violation_eq_missingSeparator_iff]
  · simp [ofTextBytes?_eq_error_iff, violation_eq_invalidDigit_iff]

open Uuid in
/-- A character of two bytes at the end of a text that is right up to there. -/
theorem texts_read_by_grammar_accented :
    "808032e0-fd9e-4e6f-8896-544735c984é".toList
      = "808032e0-fd9e-4e6f-8896-544735c984".toList ++ 'é' :: [] ∧
    127 < 'é'.toNat ∧
    ofText? "808032e0-fd9e-4e6f-8896-544735c984é" = .error (.invalidDigit 34) ∧
    ∃ position ≤ (String.ofList "808032e0-fd9e-4e6f-8896-544735c984".toList).utf8ByteSize,
      FirstMisfit (Bytes.ofText "808032e0-fd9e-4e6f-8896-544735c984é") position := by
  have hgrammar := texts_read_by_grammar "808032e0-fd9e-4e6f-8896-544735c984é"
  have hlist : "808032e0-fd9e-4e6f-8896-544735c984é".toList
      = "808032e0-fd9e-4e6f-8896-544735c984".toList ++ 'é' :: [] := by decide +kernel
  have hfirst : FirstMisfit (Bytes.ofText "808032e0-fd9e-4e6f-8896-544735c984é") 34 := by
    decide +kernel
  exact ⟨hlist, by decide, (hgrammar.2.2.2.1 34).2 ⟨by decide +kernel, hfirst, by decide⟩,
    hgrammar.2.2.2.2 _ _ _ hlist (by decide)⟩

end TeeClient
