import TeeClient.Uuid

/-!
# The text form of an identity

Thirty-two hexadecimal digits in groups of 8, 4, 4, 4 and 12, joined by dashes. `Uuid.text` writes
it in lower case; `Uuid.ofText?` reads either case and reports the leftmost violation. Lengths and
positions count the bytes of the text in UTF-8.
-/

namespace TeeClient.Uuid

/-- Why a text is no identity. -/
inductive TextError
  /-- The text does not have 36 bytes. -/
  | invalidLength (length : Nat)
  /-- A byte where a dash belongs is none. -/
  | missingSeparator (position : Nat)
  /-- A byte where a digit belongs is no hexadecimal digit. -/
  | invalidDigit (position : Nat)
  deriving DecidableEq, Repr

/-- The wording of a text error. -/
def TextError.message : TextError → String
  | .invalidLength length => s!"UUID must be 36 characters, got {length}"
  | .missingSeparator position => s!"Expected '-' at position {position}"
  | .invalidDigit position => s!"Invalid hex digit at position {position}"

/-- Byte positions of the dashes. -/
def separators : List Nat := [8, 13, 18, 23]

/-- The digits of a text that starts at byte position `position`, dashes checked and left out. -/
def digits : Nat → Bytes → Except TextError (List Nat)
  | _, [] => .ok []
  | position, c :: rest =>
    if position ∈ separators then
      if c = 45 then digits (position + 1) rest else .error (.missingSeparator position)
    else
      match Hex.value? c with
      | none => .error (.invalidDigit position)
      | some digit =>
        match digits (position + 1) rest with
        | .error e => .error e
        | .ok more => .ok (digit :: more)

/-- The identity whose sixteen bytes have these thirty-two digits, high digit first. -/
def ofDigits (d : List Nat) : Uuid :=
  ofBytes (Vector.ofFn fun i => UInt8.ofNat (16 * d.getD (2 * i) 0 + d.getD (2 * i + 1) 0))

/-- Read the text form, given as its bytes in UTF-8. -/
def ofTextBytes? (raw : Bytes) : Except TextError Uuid :=
  if raw.length = 36 then (digits 0 raw).map ofDigits
  else .error (.invalidLength raw.length)

/-- Read the text form. -/
def ofText? (s : String) : Except TextError Uuid :=
  ofTextBytes? s.toUTF8.data.toList

/-- The characters of the text form. -/
def chars (u : Uuid) : List Char :=
  Hex.fixed 8 u.timeLow.toNat ++ '-' :: Hex.fixed 4 u.timeMid.toNat
    ++ '-' :: Hex.fixed 4 u.timeHiAndVersion.toNat
    ++ '-' :: (u.node.toList.take 2).flatMap (fun x => Hex.fixed 2 x.toNat)
    ++ '-' :: (u.node.toList.drop 2).flatMap (fun x => Hex.fixed 2 x.toNat)

/-- The text form, in lower case. -/
def text (u : Uuid) : String := String.ofList u.chars

end TeeClient.Uuid
