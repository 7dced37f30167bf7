import Mathlib.Data.List.Basic
import Mathlib.Logic.Function.Basic
import TeeClient.Page.Image

/-!
# The layout of a page

Each `Page.Field` has a place in the page, where its value lies in a form from which it can be read
again. The places lie one behind the other from the start of the page, so what is written to one
field changes the bytes of no other, and the bytes of a page say everything about it.

Main statements:

* `Page.Field.decode_bytes`: what is written to a field is what is read from its bytes;
* `Page.image_eq`: the page is the values of its fields one behind the other, and then zeros;
* `Page.image_set`: changing a field is overwriting its bytes;
* `Page.image_injective`: pages with the same bytes are the same.
-/

namespace TeeClient

/-! ## Numbers and pieces -/

namespace Bytes

/-- The number whose digits to the base 256 these are, low digit first. -/
def number : Bytes → Nat
  | [] => 0
  | b :: rest => b.toNat + 256 * number rest

/-- The bytes of a word are its digits. -/
theorem number_ofWord (w : UInt32) : number (ofWord w) = w.toNat := by
  have hlt := w.toNat_lt
  simp only [number, ofWord, UInt32.toNat_toUInt8, UInt32.toNat_shiftRight,
    Nat.shiftRight_eq_div_pow, UInt32.reduceToNat, Nat.reduceMod, Nat.reducePow]
  omega

/-- The bytes of a half word are its digits. -/
theorem number_ofHalf (w : UInt16) : number (ofHalf w) = w.toNat := by
  have hlt := w.toNat_lt
  simp only [number, ofHalf, UInt16.toNat_toUInt8, UInt16.toNat_shiftRight,
    Nat.shiftRight_eq_div_pow, UInt16.reduceToNat, Nat.reduceMod, Nat.reducePow]
  omega

/-- The word of some bytes. -/
def word (b : Bytes) : UInt32 := .ofNat (number b)

/-- The half word of some bytes. -/
def half (b : Bytes) : UInt16 := .ofNat (number b)

/-- A word can be read from its bytes. -/
@[simp] theorem word_ofWord (w : UInt32) : word (ofWord w) = w := by
  simp [word, number_ofWord]

/-- A half word can be read from its bytes. -/
@[simp] theorem half_ofHalf (w : UInt16) : half (ofHalf w) = w := by
  simp [half, number_ofHalf]

/-- Eight bytes as they are; what is missing is zero. -/
def eight (b : Bytes) : Vector UInt8 8 := .ofFn fun i => b.getD i 0

/-- Eight bytes are what they are. -/
@[simp] theorem eight_toList (v : Vector UInt8 8) : eight v.toList = v := by
  ext i hi
  simp [eight]

/-- The bytes from an offset on, of a width. -/
def piece (b : Bytes) (offset width : Nat) : Bytes := (b.drop offset).take width

/-- The piece behind so many bytes. -/
theorem piece_append {front data : Bytes} (back : Bytes) {offset width : Nat}
    (hoffset : front.length = offset) (hwidth : data.length = width) :
    piece (front ++ (data ++ back)) offset width = data := by
  subst hoffset hwidth
  simp [piece]

/-- Overwriting the piece behind so many bytes. -/
theorem overlay_append {front old data : Bytes} (back : Bytes) {offset : Nat}
    (hoffset : front.length = offset) (hwidth : data.length = old.length) :
    overlay (front ++ (old ++ back)) offset data = front ++ (data ++ back) := by
  subst hoffset
  have hdrop : (front ++ (old ++ back)).drop (front.length + data.length) = back := by
    simp [hwidth]
  rw [overlay, hdrop, List.take_left, List.append_assoc]
  exact List.take_of_length_le (by simp [hwidth])

/-- Pieces that lie one behind the other, from an offset on. -/
def Adjacent : Nat → List (Nat × Bytes) → Prop
  | _, [] => True
  | offset, piece :: rest => piece.1 = offset ∧ Adjacent (offset + piece.2.length) rest

/-- Putting pieces one behind the other onto as many bytes, and more. -/
theorem foldl_overlay_of_adjacent {pieces : List (Nat × Bytes)} {front : Bytes}
    (h : Adjacent front.length pieces) {old : Bytes}
    (hlen : old.length = (pieces.flatMap Prod.snd).length) (back : Bytes) :
    pieces.foldl (fun memory piece => memory.overlay piece.1 piece.2) (front ++ (old ++ back))
      = front ++ (pieces.flatMap Prod.snd ++ back) := by
  induction pieces generalizing front old with
  | nil =>
    obtain rfl : old = [] := List.length_eq_zero_iff.1 (by simpa using hlen)
    rfl
  | cons piece rest ih =>
    obtain ⟨offset, data⟩ := piece
    obtain ⟨rfl, hrest⟩ := h
    simp only [List.flatMap_cons, List.length_append] at hlen ⊢
    -- the first piece takes the first of the old bytes
    rw [← List.take_append_drop data.length old, List.foldl_cons, List.append_assoc,
      overlay_append _ rfl (by simp only [List.length_take]; omega), ← List.append_assoc front,
      ih (by simpa using hrest) (by simp only [List.length_drop]; omega)]
    simp

end Bytes

/-- The identity of the bytes of one; the node has no byte order. -/
def Uuid.ofMemory (b : Bytes) : Uuid :=
  ⟨(b.piece 0 4).word, (b.piece 4 2).half, (b.piece 6 2).half, (b.piece 8 8).eight⟩

/-- An identity can be read from its bytes. -/
theorem Uuid.ofMemory_memoryBytes (u : Uuid) : ofMemory u.memoryBytes = u := by
  obtain ⟨low, mid, high, node⟩ := u
  have hnode : Bytes.piece (memoryBytes ⟨low, mid, high, node⟩) 8 8 = node.toList :=
    List.take_of_length_le (Nat.le_of_eq Vector.length_toList)
  rw [ofMemory, hnode, Bytes.eight_toList]
  show Uuid.mk (Bytes.ofWord low).word (Bytes.ofHalf mid).half (Bytes.ofHalf high).half node = _
  rw [Bytes.word_ofWord, Bytes.half_ofHalf, Bytes.half_ofHalf]

/-- The slot of the bytes of one. -/
def SlotWords.ofMemory (b : Bytes) : SlotWords :=
  ⟨(b.piece 0 4).word, (b.piece 4 4).word, (b.piece 8 4).word⟩

/-- A slot can be read from its bytes. -/
theorem SlotWords.ofMemory_memoryBytes (w : SlotWords) : ofMemory w.memoryBytes = w := by
  obtain ⟨word0, word1, word2⟩ := w
  show SlotWords.mk (Bytes.ofWord word0).word (Bytes.ofWord word1).word
    (Bytes.ofWord word2).word = _
  rw [Bytes.word_ofWord, Bytes.word_ofWord, Bytes.word_ofWord]

/-! ## Fields -/

namespace Page

/-- A field of a page. -/
inductive Field
  | tag
  | destination
  | instruction
  | command
  | types
  | param (slot : Slot)
  | cancelled
  | ready
  | origin
  | status
  deriving DecidableEq, Repr

namespace Field

/-- The fields in the order in which they lie. -/
def all : List Field :=
  [tag, destination, instruction, command, types] ++ Slot.ascending.map param
    ++ [cancelled, ready, origin, status]

/-- The values that a field may have. -/
def Value : Field → Type
  | tag => Vector UInt8 8
  | destination => Uuid
  | param _ => SlotWords
  | cancelled | ready => Bool
  | instruction | command | types | origin | status => UInt32

/-- The value of a field that was never given one. -/
def zero : (f : Field) → f.Value
  | tag => .replicate 8 0
  | destination => Uuid.nil
  | param _ => SlotWords.zero
  | cancelled | ready => false
  | instruction | command | types | origin | status => (0 : UInt32)

/-- Where the bytes of a field begin. -/
def offset : Field → Nat
  | tag => 0
  | destination => 8
  | instruction => 24
  | command => 28
  | types => 32
  | param slot => 36 + 12 * slot.val
  | cancelled => 84
  | ready => 88
  | origin => 92
  | status => 96

/-- How many bytes a field has. -/
def width : Field → Nat
  | tag => 8
  | destination => 16
  | param _ => 12
  | instruction | command | types | cancelled | ready | origin | status => 4

/-- How many bytes some fields have together. -/
def extent : List Field → Nat
  | [] => 0
  | f :: rest => f.width + extent rest

/-- The bytes of a value. -/
def bytes : (f : Field) → f.Value → Bytes
  | tag, (v : Vector UInt8 8) => v.toList
  | destination, (u : Uuid) => u.memoryBytes
  | param _, (w : SlotWords) => w.memoryBytes
  | cancelled, b | ready, b => Bytes.ofWord (flagWord b)
  | instruction, n | command, n | types, n | origin, n | status, n => Bytes.ofWord n

/-- The value that bytes stand for: a flag is raised if its word is not zero. -/
def decode : (f : Field) → Bytes → f.Value
  | tag, b => b.eight
  | destination, b => Uuid.ofMemory b
  | param _, b => SlotWords.ofMemory b
  | cancelled, b | ready, b => b.word != 0
  | instruction, b | command, b | types, b | origin, b | status, b => b.word

/-- The value of a field. -/
def get : (f : Field) → Page → f.Value
  | tag, p => p.tag
  | destination, p => p.destination
  | instruction, p => p.request.instruction
  | command, p => p.request.command
  | types, p => p.request.types
  | param slot, p => p.param slot
  | cancelled, p => p.request.cancelled
  | ready, p => p.ready
  | origin, p => p.origin
  | status, p => p.status

/-- The page with a field changed. -/
def set : (f : Field) → f.Value → Page → Page
  | tag, v, p => p.setTag v
  | destination, v, p => p.setDestination v
  | instruction, v, p => p.setInstruction v
  | command, v, p => p.setCommand v
  | types, v, p => p.setTypes v
  | param slot, v, p => p.setParam slot v
  | cancelled, v, p => p.setCancelled v
  | ready, v, p => p.setReady v
  | origin, v, p => p.setResult v p.status
  | status, v, p => p.setResult p.origin v

/-- A value has as many bytes as its field. -/
@[simp] theorem length_bytes (f : Field) (v : f.Value) : (f.bytes v).length = f.width := by
  cases f with
  | tag => exact Vector.length_toList
  | destination => simp [bytes, width, Uuid.memoryBytes, Bytes.ofWord, Bytes.ofHalf]
  | _ => rfl

/-- What is written to a field is what is read from its bytes. -/
@[simp] theorem decode_bytes (f : Field) (v : f.Value) : f.decode (f.bytes v) = v := by
  cases f with
  | tag => exact Bytes.eight_toList v
  | destination => exact Uuid.ofMemory_memoryBytes v
  | param slot => exact SlotWords.ofMemory_memoryBytes v
  | cancelled | ready => cases v <;> rfl
  | _ => exact Bytes.word_ofWord v

/-- The numbers of an identity have their low bytes first, and its node is left as it is. -/
example : bytes .destination (Uuid.mk 0x01020304 0x0506 0x0708 #v[9, 10, 11, 12, 13, 14, 15, 16])
    = [4, 3, 2, 1, 6, 5, 8, 7, 9, 10, 11, 12, 13, 14, 15, 16] := by decide

/-- Changing a field changes its value, and that of no other field. -/
theorem get_set (f g : Field) (v : f.Value) (p : Page) :
    g.get (f.set v p) = Function.update (fun h : Field => h.get p) f v g := by
  cases f with
  | param slot =>
    cases g with
    | param other =>
      by_cases h : other = slot
      · subst h
        rw [Function.update_self]
        exact param_setParam_self p other v
      · rw [Function.update_of_ne (by simpa using h)]
        exact param_setParam_ne p v h
    | _ => rfl
  | _ => cases g <;> rfl

/-- Every field is in the list `all`. -/
theorem mem_all (f : Field) : f ∈ all := by
  cases f with
  | param slot =>
    match slot with
    | 0 | 1 | 2 | 3 => decide
  | _ => decide

/-- A field begins where those before it end, and there is only one of it. -/
theorem exists_split (f : Field) : ∃ before after, all = before ++ f :: after ∧
    extent before = f.offset ∧ f ∉ before ∧ f ∉ after :=
  ⟨all.takeWhile (· ≠ f), (all.dropWhile (· ≠ f)).tail, (show ∀ f ∈ all,
    all = all.takeWhile (· ≠ f) ++ f :: (all.dropWhile (· ≠ f)).tail ∧
      extent (all.takeWhile (· ≠ f)) = f.offset ∧
      f ∉ all.takeWhile (· ≠ f) ∧ f ∉ (all.dropWhile (· ≠ f)).tail by decide) f (mem_all f)⟩

end Field

/-- The page whose fields have the given values. -/
def ofFields (value : (f : Field) → f.Value) : Page where
  tag := value .tag
  destination := value .destination
  request := ⟨value .instruction, value .command, value .types,
    .ofFn fun slot => value (.param slot), value .cancelled⟩
  ready := value .ready
  origin := value .origin
  status := value .status

/-- A page is made of its fields. -/
theorem ofFields_get (p : Page) : ofFields (fun f => f.get p) = p := by
  obtain ⟨tag, destination, ⟨instruction, command, types, params, cancelled⟩, ready, origin,
    status⟩ := p
  have hparams : Slots.ofFn (fun slot => params.get slot) = params :=
    Slots.ext_get fun slot => Slots.get_ofFn _ slot
  simp [ofFields, Field.get, param, hparams]

/-- The values of the fields one behind the other. -/
def content (value : (f : Field) → f.Value) : Bytes := Field.all.flatMap fun f => f.bytes (value f)

/-- Whatever their values are, fields take up as many bytes as they have. -/
theorem length_flatMap_bytes (fields : List Field) (value : (f : Field) → f.Value) :
    (fields.flatMap fun f => f.bytes (value f)).length = Field.extent fields := by
  induction fields with
  | nil => rfl
  | cons f rest ih => simp [Field.extent, ih]

/-- The fields take up the first hundred bytes. -/
@[simp] theorem length_content (value : (f : Field) → f.Value) :
    (content value).length = fieldsEnd := by
  rw [content, length_flatMap_bytes]
  rfl

/-- The page is the values of its fields one behind the other, and then zeros. -/
theorem image_eq (p : Page) :
    p.image = content (fun f => f.get p) ++ List.replicate (size - fieldsEnd) 0 := by
  have hfields : p.fields = Field.all.map fun f => (f.offset, f.bytes (f.get p)) := rfl
  have hflat : p.fields.flatMap Prod.snd = content fun f => f.get p := by
    rw [hfields, List.flatMap_map]
    rfl
  have hadjacent : Bytes.Adjacent 0 p.fields := by
    simp +decide [hfields, Field.all, Slot.ascending, Bytes.Adjacent, Field.offset, Field.width]
  have hzeros : List.replicate size (0 : UInt8)
      = List.replicate fieldsEnd 0 ++ List.replicate (size - fieldsEnd) 0 := by
    rw [List.replicate_append_replicate, size, fieldsEnd]
  have hlaid := @Bytes.foldl_overlay_of_adjacent p.fields [] hadjacent (List.replicate fieldsEnd 0)
    (by rw [hflat, length_content, List.length_replicate]) (List.replicate (size - fieldsEnd) 0)
  rw [image, hzeros, ← hflat]
  simpa only [List.nil_append] using hlaid

/-- The bytes of a field lie in its place. -/
theorem piece_content (value : (f : Field) → f.Value) (back : Bytes) (f : Field) :
    (content value ++ back).piece f.offset f.width = f.bytes (value f) := by
  obtain ⟨before, after, hall, hoffset, -⟩ := f.exists_split
  have hsplit : content value ++ back = (before.flatMap fun f => f.bytes (value f))
      ++ (f.bytes (value f) ++ ((after.flatMap fun f => f.bytes (value f)) ++ back)) := by
    simp [content, hall]
  rw [hsplit]
  exact Bytes.piece_append _ (by rw [length_flatMap_bytes, hoffset]) (by simp)

/-- Changing a field is overwriting its bytes. -/
theorem image_set (f : Field) (v : f.Value) (p : Page) :
    (f.set v p).image = p.image.overlay f.offset (f.bytes v) := by
  obtain ⟨before, after, hall, hoffset, hbefore, hafter⟩ := f.exists_split
  -- the other fields have the bytes that they had
  have hkept : ∀ fields : List Field, f ∉ fields →
      (fields.flatMap fun g => g.bytes (g.get (f.set v p)))
        = fields.flatMap fun g => g.bytes (g.get p) := by
    intro fields hnot
    refine List.flatMap_congr fun g hg => ?_
    have hne : g ≠ f := fun h => hnot (h ▸ hg)
    rw [Field.get_set, Function.update_of_ne hne]
  have hself : f.get (f.set v p) = v := by rw [Field.get_set, Function.update_self]
  have hold : (content fun g => g.get p) = (before.flatMap fun g => g.bytes (g.get p))
      ++ (f.bytes (f.get p) ++ after.flatMap fun g => g.bytes (g.get p)) := by
    simp [content, hall]
  have hnew : (content fun g => g.get (f.set v p)) = (before.flatMap fun g => g.bytes (g.get p))
      ++ (f.bytes v ++ after.flatMap fun g => g.bytes (g.get p)) := by
    simp [content, hall, hkept _ hbefore, hkept _ hafter, hself]
  rw [image_eq, image_eq, hold, hnew, List.append_assoc, List.append_assoc, List.append_assoc,
    List.append_assoc, Bytes.overlay_append _ (by rw [length_flatMap_bytes, hoffset]) (by simp)]

/-- A field can be read from the bytes of the page. -/
theorem decode_piece_image (f : Field) (p : Page) :
    f.decode (p.image.piece f.offset f.width) = f.get p := by
  rw [image_eq, piece_content, Field.decode_bytes]

/-- Pages with the same bytes are the same. -/
theorem image_injective {p q : Page} (h : p.image = q.image) : p = q := by
  have hget : (fun f : Field => f.get p) = fun f => f.get q := by
    funext f
    rw [← decode_piece_image, h, decode_piece_image]
  rw [← ofFields_get p, hget, ofFields_get]

end Page

end TeeClient
