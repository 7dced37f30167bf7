import TeeClient.Bytes

/-!
# Flat configuration documents

`Document.read?` reads a document of `key = value` lines in the TOML 1.0 form, whose values are
strings (basic, literal, and both in several lines) and integers (decimal, hexadecimal, octal,
binary). Keys are bare or quoted. Comments, blank lines, both line ends and one leading byte order
mark are accepted.

A configuration has no other values, so everything else that the form knows (tables, arrays, dotted
keys, dates, fractions, truth values) is refused here in the same way as broken text.
-/

namespace TeeClient.Document

/-- A value of a document. -/
inductive Scalar
  /-- A string. -/
  | text (s : String)
  /-- An integer of at most 64 bits with its sign. -/
  | integer (n : Int)
  deriving DecidableEq, Repr

/-- Space or tab. -/
def isBlank (c : Char) : Bool := c = ' ' || c = '\t'

/-- A character that may stand in a comment or a string: a tab, or anything that is no control
character of ASCII. -/
def isPlain (c : Char) : Bool := c = '\t' || (c.toNat ≥ 0x20 && c.toNat ≠ 0x7F)

/-- The text behind leading blanks. -/
def skipBlanks (s : List Char) : List Char := s.dropWhile isBlank

/-- The text behind a line end. -/
def newline? : List Char → Option (List Char)
  | '\n' :: rest => some rest
  | '\r' :: '\n' :: rest => some rest
  | _ => none

/-- The text behind the rest of a line that holds only blanks and perhaps a comment. -/
def lineEnd? (s : List Char) : Option (List Char) :=
  let s := skipBlanks s
  let s := match s with
    | '#' :: comment => comment.dropWhile isPlain
    | s => s
  match s with
  | [] => some []
  | s => newline? s

/-! ## Strings -/

/-- Put a character in front of what was read. -/
def push (c : Char) : Option (List Char × List Char) → Option (List Char × List Char) :=
  Option.map fun r => (c :: r.1, r.2)

/-- The value of a hexadecimal digit. -/
def hexDigit? (c : Char) : Option Nat :=
  if c.toNat < 0x80 then Hex.value? c.toNat.toUInt8 else none

/-- The character that an escape with these hexadecimal digits stands for. Surrogates and numbers
beyond the last character stand for none. -/
def escaped? (digits : List Char) : Option Char := do
  let values ← digits.mapM hexDigit?
  let n := values.foldl (fun acc d => 16 * acc + d) 0
  if n.isValidChar then some (Char.ofNat n) else none

/-- The character that a one-letter escape stands for. -/
def shortEscape? : Char → Option Char
  | 'b' => some '\x08'
  | 't' => some '\t'
  | 'n' => some '\n'
  | 'f' => some '\x0c'
  | 'r' => some '\r'
  | '"' => some '"'
  | '\\' => some '\\'
  | _ => none

/-- The rest of a basic string, and the text behind its closing quote. -/
def basic : List Char → Option (List Char × List Char)
  | [] => none
  | '"' :: rest => some ([], rest)
  | '\\' :: 'u' :: a :: b :: c :: d :: rest => do
    push (← escaped? [a, b, c, d]) (basic rest)
  | '\\' :: 'U' :: a :: b :: c :: d :: e :: f :: g :: h :: rest => do
    push (← escaped? [a, b, c, d, e, f, g, h]) (basic rest)
  | '\\' :: c :: rest => do
    push (← shortEscape? c) (basic rest)
  | c :: rest => if isPlain c && c ≠ '\\' then push c (basic rest) else none

/-- The rest of a literal string, and the text behind its closing quote. -/
def literal : List Char → Option (List Char × List Char)
  | [] => none
  | '\'' :: rest => some ([], rest)
  | c :: rest => if isPlain c then push c (literal rest) else none

/-- The rest of a basic string over several lines. While `skipping`, blanks and line ends are left
out; a backslash at the end of a line starts that. One or two quotes may stand before the closing
three. -/
def multiBasic : Bool → List Char → Option (List Char × List Char)
  | _, [] => none
  | _, '"' :: '"' :: '"' :: '"' :: '"' :: rest => some (['"', '"'], rest)
  | _, '"' :: '"' :: '"' :: '"' :: rest => some (['"'], rest)
  | _, '"' :: '"' :: '"' :: rest => some ([], rest)
  | _, '\\' :: 'u' :: a :: b :: c :: d :: rest => do
    push (← escaped? [a, b, c, d]) (multiBasic false rest)
  | _, '\\' :: 'U' :: a :: b :: c :: d :: e :: f :: g :: h :: rest => do
    push (← escaped? [a, b, c, d, e, f, g, h]) (multiBasic false rest)
  | _, '\\' :: c :: rest =>
    -- with nothing but blanks behind it a backslash joins lines, otherwise it begins an escape
    if (newline? (skipBlanks (c :: rest))).isSome then multiBasic true (c :: rest)
    else do push (← shortEscape? c) (multiBasic false rest)
  | skipping, '\r' :: '\n' :: rest =>
    if skipping then multiBasic true rest else push '\n' (multiBasic false rest)
  | skipping, c :: rest =>
    if skipping && (isBlank c || c = '\n') then multiBasic true rest
    else if (isPlain c && c ≠ '\\') || c = '\n' then push c (multiBasic false rest)
    else none

/-- The rest of a literal string over several lines. -/
def multiLiteral : List Char → Option (List Char × List Char)
  | [] => none
  | '\'' :: '\'' :: '\'' :: '\'' :: '\'' :: rest => some (['\'', '\''], rest)
  | '\'' :: '\'' :: '\'' :: '\'' :: rest => some (['\''], rest)
  | '\'' :: '\'' :: '\'' :: rest => some ([], rest)
  | '\r' :: '\n' :: rest => push '\n' (multiLiteral rest)
  | c :: rest => if isPlain c || c = '\n' then push c (multiLiteral rest) else none

/-- A line end right behind the opening quotes does not count. -/
def trimOpening (s : List Char) : List Char := (newline? s).getD s

/-! ## Integers -/

/-- The number that a run of digits adds to `acc`, and the text behind the run. A single underscore
may stand between two digits. -/
def digitRun (base : Nat) : Nat → List Char → Nat × List Char
  | acc, [] => (acc, [])
  | acc, '_' :: c :: rest =>
    match hexDigit? c with
    | some d => if d < base then digitRun base (acc * base + d) rest else (acc, '_' :: c :: rest)
    | none => (acc, '_' :: c :: rest)
  | acc, c :: rest =>
    match hexDigit? c with
    | some d => if d < base then digitRun base (acc * base + d) rest else (acc, c :: rest)
    | none => (acc, c :: rest)

/-- A run of at least one digit. -/
def digits? (base : Nat) : List Char → Option (Nat × List Char)
  | c :: rest => do
    let d ← hexDigit? c
    if d < base then some (digitRun base d rest) else none
  | [] => none

/-- An unsigned decimal number: no zero stands in front of further digits. -/
def decimal? : List Char → Option (Nat × List Char)
  | '0' :: rest => some (0, rest)
  | s => digits? 10 s

/-- An integer, and the text behind it. -/
def integer? (s : List Char) : Option (Int × List Char) := do
  let (n, rest) ← match s with
    | '0' :: 'x' :: s => (digits? 16 s).map fun r => (Int.ofNat r.1, r.2)
    | '0' :: 'o' :: s => (digits? 8 s).map fun r => (Int.ofNat r.1, r.2)
    | '0' :: 'b' :: s => (digits? 2 s).map fun r => (Int.ofNat r.1, r.2)
    | '+' :: s => (decimal? s).map fun r => (Int.ofNat r.1, r.2)
    | '-' :: s => (decimal? s).map fun r => (- Int.ofNat r.1, r.2)
    | s => (decimal? s).map fun r => (Int.ofNat r.1, r.2)
  if -0x8000000000000000 ≤ n ∧ n ≤ 0x7FFFFFFFFFFFFFFF then some (n, rest) else none

/-! ## Lines -/

/-- A character of a bare key. -/
def isBareKey (c : Char) : Bool := c.isAlphanum || c = '_' || c = '-'

/-- A key, and the text behind it. -/
def key? : List Char → Option (List Char × List Char)
  | '"' :: rest => basic rest
  | '\'' :: rest => literal rest
  | s => if (s.takeWhile isBareKey).isEmpty then none
    else some (s.takeWhile isBareKey, s.dropWhile isBareKey)

/-- A value, and the text behind it. -/
def value? : List Char → Option (Scalar × List Char)
  | '"' :: '"' :: '"' :: rest => (multiBasic false (trimOpening rest)).map fun r =>
    (.text (String.ofList r.1), r.2)
  | '"' :: rest => (basic rest).map fun r => (.text (String.ofList r.1), r.2)
  | '\'' :: '\'' :: '\'' :: rest => (multiLiteral (trimOpening rest)).map fun r =>
    (.text (String.ofList r.1), r.2)
  | '\'' :: rest => (literal rest).map fun r => (.text (String.ofList r.1), r.2)
  | s => (integer? s).map fun r => (.integer r.1, r.2)

/-- A line `key = value`, and the text behind its end. -/
def entry? (s : List Char) : Option ((String × Scalar) × List Char) := do
  let (key, s) ← key? s
  match skipBlanks s with
  | '=' :: s =>
    let (value, s) ← value? (skipBlanks s)
    let rest ← lineEnd? s
    some ((String.ofList key, value), rest)
  | _ => none

/-- The entries of a text, line by line. Each step uses up a character at least, so as many steps as
the text has characters are enough. -/
def entries : Nat → List Char → Option (List (String × Scalar))
  | _, [] => some []
  | 0, _ => none
  | steps + 1, s =>
    match lineEnd? s with
    | some rest => entries steps rest
    | none => do
      let (entry, rest) ← entry? (skipBlanks s)
      let more ← entries steps rest
      some (entry :: more)

/-- The entries of a document in order; `none` if it is not of the form. -/
def read? (s : String) : Option (List (String × Scalar)) :=
  match s.toList with
  -- a byte order mark is no part of the text
  | '\uFEFF' :: rest => entries rest.length rest
  | all => entries all.length all

end TeeClient.Document
