import TeeClient.Proofs.Spelling

/-!
# The digits of a spelling

A spelling is thirty-two digits with dashes between. `Uuid.dashed` puts the dashes there, and a scan
takes them out again. It reads as many digits as there are positions without a dash, and all that
these leave open about the text is the case of its letters.

Main statements:

* `Uuid.digits_dashed`: a scan of digits with dashes between reads these digits;
* `Uuid.length_of_digits`: a scan reads one digit at each position where no dash belongs;
* `Uuid.map_letter_eq_of_digits`: texts from which the same digits are read differ in case only.
-/

namespace TeeClient

namespace Hex

/-- The byte that a digit is written as. -/
def code (n : Nat) : UInt8 := (Nat.digitChar n).toUInt8

/-- A digit that is written has the value that it is written for. -/
theorem value?_code {n : Nat} (h : n < 16) : value? (code n) = some n :=
  (by decide : ∀ n < 16, value? (code n) = some n) n h

/-- The character of a byte, in lower case. -/
def letter (c : UInt8) : Char := (Char.ofUInt8 c).toLower

/-- What is read as a digit is, in lower case, what is written for it. -/
theorem letter_of_value? {c : UInt8} {n : Nat} (h : value? c = some n) :
    n < 16 ∧ letter c = Nat.digitChar n := by
  have hall : ∀ k < 256, ∀ n ∈ value? (UInt8.ofNat k),
      n < 16 ∧ letter (UInt8.ofNat k) = Nat.digitChar n := by decide +kernel
  simpa using hall c.toNat c.toNat_lt n (by simpa using h)

end Hex

namespace Uuid

/-! ## Dashes -/

/-- Letters in groups of eight, four, four, four and what is left, with dashes between. -/
def dashed {α : Type} (dash : α) (l : List α) : List α :=
  l.take 8 ++ dash :: (l.drop 8).take 4 ++ dash :: (l.drop 12).take 4
    ++ dash :: (l.drop 16).take 4 ++ dash :: l.drop 20

variable {α β : Type} {dash : α} {l : List α}

/-- The groups are all of the letters. -/
theorem groups_eq (l : List α) : l.take 8 ++ ((l.drop 8).take 4 ++ ((l.drop 12).take 4
    ++ ((l.drop 16).take 4 ++ l.drop 20))) = l := by
  have hdrop : ∀ i, (l.drop i).take 4 ++ l.drop (i + 4) = l.drop i := fun i => by
    rw [← List.drop_drop, List.take_append_drop]
  rw [hdrop 16, hdrop 12, hdrop 8, List.take_append_drop]

/-- Dashes are put between letters whatever these are. -/
theorem map_dashed (f : α → β) : (dashed dash l).map f = dashed (f dash) (l.map f) := by
  simp [dashed]

/-- Thirty-two letters and the dashes between them. -/
theorem length_dashed (h : l.length = 32) : (dashed dash l).length = 36 := by
  simp [dashed, h]

/-- A list that is `dashed` holds nothing but the dashes and the letters. -/
theorem eq_or_mem_of_mem_dashed {x : α} (h : x ∈ dashed dash l) : x = dash ∨ x ∈ l := by
  rw [← groups_eq l]
  simp only [dashed, List.mem_append, List.mem_cons] at h ⊢
  grind

/-- Without the dashes, the letters are left. -/
theorem filter_dashed [DecidableEq α] (h : ∀ x ∈ l, x ≠ dash) :
    (dashed dash l).filter (· ≠ dash) = l := by
  calc (dashed dash l).filter (· ≠ dash)
      = (l.take 8 ++ ((l.drop 8).take 4 ++ ((l.drop 12).take 4
          ++ ((l.drop 16).take 4 ++ l.drop 20)))).filter (· ≠ dash) := by
        simp [dashed, List.filter_append]
    _ = l.filter (· ≠ dash) := by rw [groups_eq]
    _ = l := List.filter_eq_self.2 fun x hx => decide_eq_true (h x hx)

/-! ## Reading what is written -/

variable {position : Nat} {raw rest : Bytes} {d : List Nat}

/-- A scan reads a digit where none of the dashes belongs. -/
theorem digits_cons_code {n : Nat} (hn : n < 16) (hdash : ¬ DashAt position) (rest : Bytes) :
    digits position (Hex.code n :: rest) = (digits (position + 1) rest).map (n :: ·) := by
  have hvalue : Hex.value? (Hex.code n) = some n := Hex.value?_code hn
  have hfits : Fits position (Hex.code n) := by
    rw [Fits, if_neg hdash, ← Hex.isSome_value?_iff, hvalue]
    rfl
  have hread : reading position (Hex.code n) = [n] := by simp [reading, hdash, hvalue]
  rw [digits_cons_of_fits hfits, hread]
  rfl

/-- A scan passes a dash where one belongs. -/
theorem digits_cons_dash (hdash : DashAt position) (rest : Bytes) :
    digits position ('-'.toUInt8 :: rest) = digits (position + 1) rest := by
  have hfits : Fits position '-'.toUInt8 := by
    rw [Fits, if_pos hdash]
    rfl
  have hread : reading position '-'.toUInt8 = [] := if_pos hdash
  rw [digits_cons_of_fits hfits, hread]
  cases digits (position + 1) rest <;> rfl

/-- A scan reads digits as long as no dash belongs among them. -/
theorem digits_append_codes (hd : ∀ n ∈ d, n < 16)
    (hdash : ∀ i < d.length, ¬ DashAt (position + i)) (rest : Bytes) :
    digits position (d.map Hex.code ++ rest)
      = (digits (position + d.length) rest).map (d ++ ·) := by
  induction d generalizing position with
  | nil => cases h : digits position rest <;> simp [h, Except.map]
  | cons n d ih =>
    have hhere : ¬ DashAt position := hdash 0 (by simp)
    -- the digits behind the first one stand one position further on
    have hthere : ∀ i < d.length, ¬ DashAt (position + 1 + i) := fun i hi => by
      have := hdash (i + 1) (by simpa using hi)
      rwa [Nat.add_comm i 1, ← Nat.add_assoc] at this
    have hlength : position + (n :: d).length = position + 1 + d.length := by
      simp only [List.length_cons]
      omega
    rw [List.map_cons, List.cons_append, digits_cons_code (hd n List.mem_cons_self) hhere,
      ih (fun m hm => hd m (List.mem_cons_of_mem n hm)) hthere, hlength]
    cases digits (position + 1 + d.length) rest <;> rfl

/-- A scan reads a group of digits and passes the dash behind it. -/
theorem digits_group {count : Nat} (hd : ∀ n ∈ d, n < 16) (hlength : d.length = count)
    (hdash : ∀ i < count, ¬ DashAt (position + i)) (hend : DashAt (position + count))
    (rest : Bytes) : digits position (d.map Hex.code ++ '-'.toUInt8 :: rest)
      = (digits (position + count + 1) rest).map (d ++ ·) := by
  subst hlength
  rw [digits_append_codes hd hdash, digits_cons_dash hend]

/-- A scan of thirty-two digits with dashes between reads the digits. -/
theorem digits_dashed (hlength : d.length = 32) (hd : ∀ n ∈ d, n < 16) :
    digits 0 (dashed '-'.toUInt8 (d.map Hex.code)) = .ok d := by
  have hfirst : (d.take 8).length = 8 := by simp [hlength]
  have hgroup : ∀ i, i + 4 ≤ 32 → ((d.drop i).take 4).length = 4 := fun i hi => by
    rw [List.length_take, List.length_drop, hlength]
    omega
  have hrest : (d.drop 20).length = 12 := by simp [hlength]
  have htake : ∀ n ∈ d.take 8, n < 16 := fun n hn => hd n (List.mem_of_mem_take hn)
  have hdrop : ∀ i, ∀ n ∈ d.drop i, n < 16 := fun i n hn => hd n (List.mem_of_mem_drop hn)
  have hmid : ∀ i, ∀ n ∈ (d.drop i).take 4, n < 16 :=
    fun i n hn => hdrop i n (List.mem_of_mem_take hn)
  have hlast : digits 24 ((d.drop 20).map Hex.code ++ []) = .ok (d.drop 20 ++ []) :=
    digits_append_codes (hdrop 20) (by rw [hrest]; decide) []
  rw [List.append_nil, List.append_nil] at hlast
  -- one group after the other, at the positions where the dashes end them
  rw [dashed]
  simp only [← List.map_take, ← List.map_drop, List.append_assoc, List.cons_append]
  rw [digits_group htake hfirst (by decide) (by decide),
    digits_group (hmid 8) (hgroup 8 (by decide)) (by decide) (by decide),
    digits_group (hmid 12) (hgroup 12 (by decide)) (by decide) (by decide),
    digits_group (hmid 16) (hgroup 16 (by decide)) (by decide) (by decide), hlast]
  exact congrArg Except.ok (groups_eq d)

/-! ## What is read -/

/-- A scan that goes on has read a byte that fits. -/
theorem digits_cons_eq_ok {c : UInt8} (h : digits position (c :: rest) = .ok d) :
    Fits position c ∧ ∃ more, digits (position + 1) rest = .ok more ∧
      d = reading position c ++ more := by
  by_cases hfits : Fits position c
  · rw [digits_cons_of_fits hfits] at h
    cases hrest : digits (position + 1) rest with
    | error e => simp [hrest, Except.map] at h
    | ok more =>
      refine ⟨hfits, more, rfl, ?_⟩
      simpa [hrest, Except.map, eq_comm] using h
  · simp [digits_cons_of_not_fits hfits] at h

/-- A scan reads one digit at each position where no dash belongs. -/
theorem length_of_digits (h : digits position raw = .ok d) :
    d.length = ((List.range' position raw.length).filter fun i => ¬ DashAt i).length := by
  induction raw generalizing position d with
  | nil =>
    cases h
    rfl
  | cons c rest ih =>
    obtain ⟨hfits, more, hmore, rfl⟩ := digits_cons_eq_ok h
    rw [List.length_append, ih hmore, List.length_cons, List.range'_succ, List.filter_cons]
    rcases hfits.reading_cases with ⟨hdash, -, hread⟩ | ⟨hdash, n, -, hread⟩
    · simp [hread, hdash]
    · simp [hread, hdash, Nat.add_comm]

/-- What a scan reads are digits. -/
theorem lt_of_digits (h : digits position raw = .ok d) : ∀ n ∈ d, n < 16 := by
  induction raw generalizing position d with
  | nil =>
    cases h
    simp
  | cons c rest ih =>
    obtain ⟨hfits, more, hmore, rfl⟩ := digits_cons_eq_ok h
    rcases hfits.reading_cases with ⟨-, -, hread⟩ | ⟨-, n, hn, hread⟩
    · simpa [hread] using ih hmore
    · have hlt : n < 16 := (Hex.letter_of_value? hn).1
      simpa [hread, hlt] using ih hmore

/-- Texts of the same length from which the same digits are read differ in case only. -/
theorem map_letter_eq_of_digits {raw raw' : Bytes} (h : digits position raw = .ok d)
    (h' : digits position raw' = .ok d) (hlength : raw.length = raw'.length) :
    raw.map Hex.letter = raw'.map Hex.letter := by
  induction raw generalizing position d raw' with
  | nil =>
    obtain rfl : raw' = [] := List.length_eq_zero_iff.1 hlength.symm
    rfl
  | cons c rest ih =>
    cases raw' with
    | nil => simp at hlength
    | cons c' rest' =>
      obtain ⟨hfits, more, hmore, rfl⟩ := digits_cons_eq_ok h
      obtain ⟨hfits', more', hmore', heq⟩ := digits_cons_eq_ok h'
      -- the position says of both bytes whether they are dashes, and digits have the same value
      have hboth : Hex.letter c = Hex.letter c' ∧ more = more' := by
        rcases hfits.reading_cases with ⟨hdash, rfl, hread⟩ | ⟨hdash, n, hn, hread⟩
        · rcases hfits'.reading_cases with ⟨-, rfl, hread'⟩ | ⟨hno, -⟩
          · exact ⟨rfl, by simpa [hread'] using heq⟩
          · exact absurd hdash hno
        · rcases hfits'.reading_cases with ⟨hno, -⟩ | ⟨-, n', hn', hread'⟩
          · exact absurd hno hdash
          · obtain ⟨rfl, hmore⟩ : n = n' ∧ more = more' := by simpa [hread, hread'] using heq
            exact ⟨(Hex.letter_of_value? hn).2.trans (Hex.letter_of_value? hn').2.symm, hmore⟩
      obtain ⟨hletter, rfl⟩ := hboth
      rw [List.map_cons, List.map_cons, hletter, ih hmore hmore' (by simpa using hlength)]

/-- A text is read as the identity of its digits. -/
theorem ofTextBytes?_eq_ok_iff {u : Uuid} : ofTextBytes? raw = .ok u ↔
    raw.length = 36 ∧ ∃ d, digits 0 raw = .ok d ∧ ofDigits d = u := by
  by_cases hlength : raw.length = 36
  · rw [ofTextBytes?, if_pos hlength]
    cases digits 0 raw <;> simp [hlength, Except.map]
  · simp [ofTextBytes?, hlength]

end Uuid

end TeeClient
