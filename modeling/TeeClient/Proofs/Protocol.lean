import TeeClient.Proofs.Trace

/-!
# The protocol of driver use

`books` keeps account of the uses made of a driver: which devices, sessions and mappings are in
force, which client call is under way, and which use was the last one in it. `Books.Permits` is the
protocol: what may be asked of a driver at a point is decided by the books at that point. A list of
uses is `Lawful` if each of them was permitted when it was made.

Main statements:

* `countP_makes`, `countP_opens` and `countP_opensDevice`: in a lawful list everything is given back
  once, but for what is still in force;
* `Midway.woken`: waking open sessions is permitted and changes nothing in the middle of a call;
* `Holdings.entries_put_some` and `Holdings.entries_put_none`: the mappings that a call holds and
  those in the books change together.
-/

namespace TeeClient

/-- The state of affairs between a client and its driver. -/
structure Books where
  /-- The client call that began last. -/
  call : Option ClientCall
  /-- The contexts that hold the device open. -/
  devices : List String
  /-- The open sessions, each with the context that it was opened in. -/
  sessions : Table Handle String
  /-- The mappings in force, each with the session it was made for. -/
  mapped : List (Handle × Held)
  /-- The last use made in the call, wake-ups aside. -/
  last : Option Use

namespace Books

/-- The books before anything was done. -/
def empty : Books := ⟨none, [], .empty, [], none⟩

/-- The context that the call under way is about, for calls that open or close something in one. -/
def context? (b : Books) : Option String :=
  match b.call with
  | some (.openContext context ..) | some (.closeContext context)
  | some (.openSession context ..) => some context
  | _ => none

/-- The books after one more use. -/
def enter (b : Books) (use : Use) : Books :=
  match use with
  | .call call => { b with call, last := none }
  | .wake _ => b
  | .openDevice (.ok ()) => { b with devices := b.context?.toList ++ b.devices, last := use }
  | .closeDevice =>
    { b with
      devices := b.devices.filter fun context => decide (b.context? ≠ some context)
      last := use }
  | .openSession (.ok handle) =>
    { b with sessions := b.sessions.set handle (b.context?.getD ""), last := use }
  | .closeSession handle => { b with sessions := b.sessions.erase handle, last := use }
  | .map handle address _ _ (.ok info) =>
    { b with mapped := (handle, ⟨address, info⟩) :: b.mapped, last := use }
  | .unmap handle address info =>
    { b with mapped := b.mapped.erase (handle, ⟨address, info⟩), last := use }
  | _ => { b with last := use }

/-- The protocol. A call begins when no mapping is in force; the device is opened for a context by
the call that opens the context, and closed by the call that closes it, when no session of the
context is open any more; a session is opened in a context that holds the device open, and closed
when none of its mappings is in force; nothing is done with a session that is not open; a mapping is
removed as it was made; a wait follows a notification of the same session in the same call, and a
request for the error code a wait that reported a condition. -/
def Permits (b : Books) : Use → Prop
  | .call _ => b.mapped = []
  | .openDevice _ => ∃ context name config, b.call = some (.openContext context name config) ∧
      context ∉ b.devices
  | .closeDevice => ∃ context, b.call = some (.closeContext context) ∧ context ∈ b.devices ∧
      ∀ handle, b.sessions.get? handle ≠ some context
  | .openSession _ => ∃ context session destination login operation,
      b.call = some (.openSession context session destination login operation) ∧
      context ∈ b.devices
  | .closeSession handle => b.sessions.contains handle = true ∧
      ∀ held, (handle, held) ∉ b.mapped
  | .map handle .. => b.sessions.contains handle = true
  | .unmap handle address info => b.sessions.contains handle = true ∧
      (handle, ⟨address, info⟩) ∈ b.mapped
  | .notify handle _ => b.sessions.contains handle = true
  | .wait handle _ => b.sessions.contains handle = true ∧
      b.last = some (.notify handle (.ok ()))
  | .errorCode handle => b.sessions.contains handle = true ∧
      b.last = some (.wait handle (.error .infoNotification))
  | .wake handle => b.sessions.contains handle = true

/-- What does not change while a call is under way on a session. -/
def standing (b : Books) : Option ClientCall × List String × Table Handle String :=
  (b.call, b.devices, b.sessions)

end Books

/-- The books that a list of uses, the latest first, leads to. -/
def books : List Use → Books
  | [] => .empty
  | use :: earlier => (books earlier).enter use

/-- Each of the uses was permitted when it was made. -/
def Lawful : List Use → Prop
  | [] => True
  | use :: earlier => (books earlier).Permits use ∧ Lawful earlier

/-- The handle of the session that a use opens. -/
def Use.opened? : Use → Option Handle
  | .openSession (.ok handle) => some handle
  | _ => none

/-- No session was opened under the handle of one that was open. -/
def DistinctHandles : List Use → Prop
  | [] => True
  | use :: earlier =>
    (use.opened?.all fun handle => !(books earlier).sessions.contains handle) = true ∧
      DistinctHandles earlier

instance DistinctHandles.decidable : (uses : List Use) → Decidable (DistinctHandles uses)
  | [] => isTrue trivial
  | use :: earlier =>
    have := DistinctHandles.decidable earlier
    inferInstanceAs (Decidable ((use.opened?.all _) = true ∧ _))

/-- What is promised of the handles holds from the start. -/
theorem DistinctHandles.of_suffix {earlier later : List Use} (h : earlier <:+ later)
    (hd : DistinctHandles later) : DistinctHandles earlier := by
  obtain ⟨new, rfl⟩ := h
  induction new with
  | nil => exact hd
  | cons use rest ih => exact ih hd.2

/-! ## Exactly once -/

namespace Use

/-- The use brings a mapping into force. -/
def makes (mapping : Handle × Held) : Use → Bool
  | .map handle address _ _ (.ok info) => decide ((handle, ⟨address, info⟩) = mapping)
  | _ => false

/-- The use removes a mapping. -/
def removes (mapping : Handle × Held) : Use → Bool
  | .unmap handle address info => decide ((handle, ⟨address, info⟩) = mapping)
  | _ => false

/-- The use opens a session under a handle. -/
def opens (handle : Handle) (use : Use) : Bool := decide (use.opened? = some handle)

/-- The use closes the session of a handle. -/
def closes (handle : Handle) : Use → Bool
  | .closeSession h => decide (h = handle)
  | _ => false

/-- The use opens the device. -/
def opensDevice : Use → Bool
  | .openDevice (.ok ()) => true
  | _ => false

/-- The use closes the device. -/
def closesDevice : Use → Bool
  | .closeDevice => true
  | _ => false

end Use

section Counting

variable {uses : List Use}

/-- What was mapped was removed as often as it was mapped, but for what is still in force. -/
theorem countP_makes (h : Lawful uses) (mapping : Handle × Held) :
    uses.countP (Use.makes mapping)
      = uses.countP (Use.removes mapping) + (books uses).mapped.count mapping := by
  induction uses with
  | nil => rfl
  | cons use earlier ih =>
    have ih := ih h.2
    cases use with
    | call | closeDevice | closeSession | notify | wait | errorCode | wake => exact ih
    | openDevice result | openSession result => cases result <;> exact ih
    | map handle address len access result =>
      cases result with
      | error e => exact ih
      | ok info =>
        -- one more was made, and one more is in force
        rw [List.countP_cons, List.countP_cons_of_neg (by simp [Use.removes])]
        show _ = _ + List.count mapping ((handle, ⟨address, info⟩) :: (books earlier).mapped)
        rw [List.count_cons, ih]
        simp only [Use.makes, decide_eq_true_eq, beq_iff_eq]
        omega
    | unmap handle address info =>
      -- it was in force, so one less is left
      have hm : 0 < (books earlier).mapped.count (handle, ⟨address, info⟩) :=
        List.count_pos_iff.2 h.1.2
      rw [List.countP_cons_of_neg (by simp [Use.makes]), List.countP_cons]
      show _ = _ + List.count mapping ((books earlier).mapped.erase (handle, ⟨address, info⟩))
      rw [List.count_erase, ih]
      simp only [Use.removes, decide_eq_true_eq, beq_iff_eq]
      split
      next he =>
        rw [he] at hm
        omega
      next => omega

/-- A session was closed as often as one was opened under its handle, but for one that is open. -/
theorem countP_opens (h : Lawful uses) (hd : DistinctHandles uses) (handle : Handle) :
    uses.countP (Use.opens handle)
      = uses.countP (Use.closes handle) + ((books uses).sessions.contains handle).toNat := by
  induction uses with
  | nil => rfl
  | cons use earlier ih =>
    have ih := ih h.2 hd.2
    cases use with
    | call | closeDevice | unmap | notify | wait | errorCode | wake => exact ih
    | openDevice result | map _ _ _ _ result => cases result <;> exact ih
    | openSession result =>
      cases result with
      | error e => exact ih
      | ok opened =>
        -- the handle was vacant, so the session is one more
        have hnew : (books earlier).sessions.contains opened = false := by
          simpa [Use.opened?] using hd.1
        rw [List.countP_cons, List.countP_cons_of_neg (by simp [Use.closes])]
        show _ = _ + (((books earlier).sessions.set opened _).contains handle).toNat
        rw [Table.contains_set, ih]
        by_cases he : opened = handle
        · rw [← he, hnew]
          simp [Use.opens, Use.opened?]
        · simp [Use.opens, Use.opened?, he, Ne.symm he]
    | closeSession closed =>
      have hopen : (books earlier).sessions.contains closed = true := h.1.1
      rw [List.countP_cons_of_neg (by simp [Use.opens, Use.opened?]), List.countP_cons]
      show _ = _ + (((books earlier).sessions.erase closed).contains handle).toNat
      rw [Table.contains_erase, ih]
      by_cases he : closed = handle
      · rw [← he, hopen]
        simp [Use.closes]
      · simp [Use.closes, he, Ne.symm he]

/-- The device was closed as often as it was opened, but once less for each context that holds it
open; and no context holds it open twice. -/
theorem countP_opensDevice (h : Lawful uses) : (books uses).devices.Nodup ∧
    uses.countP Use.opensDevice = uses.countP Use.closesDevice + (books uses).devices.length := by
  induction uses with
  | nil => exact ⟨List.nodup_nil, rfl⟩
  | cons use earlier ih =>
    obtain ⟨hnodup, hcount⟩ := ih h.2
    cases use with
    | call | closeSession | unmap | notify | wait | errorCode | wake => exact ⟨hnodup, hcount⟩
    | openSession result | map _ _ _ _ result => cases result <;> exact ⟨hnodup, hcount⟩
    | openDevice result =>
      cases result with
      | error e => exact ⟨hnodup, hcount⟩
      | ok _ =>
        obtain ⟨context, name, config, hcall, hnew⟩ := h.1
        have hdevices : (books (.openDevice (.ok ()) :: earlier)).devices
            = context :: (books earlier).devices := by
          show (books earlier).context?.toList ++ _ = _
          rw [Books.context?, hcall]
          rfl
        rw [hdevices, List.countP_cons_of_pos rfl, List.countP_cons_of_neg Bool.false_ne_true,
          hcount]
        exact ⟨List.nodup_cons.2 ⟨hnew, hnodup⟩, by rw [List.length_cons]; omega⟩
    | closeDevice =>
      obtain ⟨context, hcall, hmem, -⟩ := h.1
      -- no context is in the list twice, so dropping all of its kind drops one
      have hdevices : (books (.closeDevice :: earlier)).devices
          = (books earlier).devices.erase context := by
        show (books earlier).devices.filter _ = _
        rw [hnodup.erase_eq_filter, Books.context?, hcall]
        refine List.filter_congr fun other _ => ?_
        by_cases he : other = context
        · simp [he]
        · simp [he, Ne.symm he]
      have hlength := List.length_erase_of_mem hmem
      have hpos := List.length_pos_of_mem hmem
      rw [hdevices, List.countP_cons_of_neg Bool.false_ne_true, List.countP_cons_of_pos rfl, hcount]
      exact ⟨hnodup.erase context, by omega⟩

end Counting

/-- The mappings of a call as the books have them. -/
def Holdings.entries (handle : Handle) (held : Holdings) : List (Handle × Held) :=
  held.toList.flatMap fun mapping => mapping.toList.map (handle, ·)

namespace Holdings

/-- Replacing what one slot holds replaces one entry of the list. -/
theorem toList_split {α : Type} (s : Slots α) (slot : Slot) : ∃ front back : List α,
    s.toList = front ++ s.get slot :: back ∧
      ∀ value, (s.put slot value).toList = front ++ value :: back :=
  match slot with
  | 0 => ⟨[], [s.slot1, s.slot2, s.slot3], rfl, fun _ => rfl⟩
  | 1 => ⟨[s.slot0], [s.slot2, s.slot3], rfl, fun _ => rfl⟩
  | 2 => ⟨[s.slot0, s.slot1], [s.slot3], rfl, fun _ => rfl⟩
  | 3 => ⟨[s.slot0, s.slot1, s.slot2], [], rfl, fun _ => rfl⟩

/-- A mapping that is put into an empty slot is one more in the books. -/
theorem entries_put_some (handle : Handle) {held : Holdings} {slot : Slot} (mapping : Held)
    (h : held.get slot = Option.none) :
    (entries handle (held.put slot (some mapping))).Perm
      ((handle, mapping) :: entries handle held) := by
  obtain ⟨front, back, hs, hput⟩ := toList_split held slot
  unfold entries
  rw [hput, hs, h, List.flatMap_append, List.flatMap_append, List.flatMap_cons, List.flatMap_cons]
  exact List.perm_middle

/-- A mapping that is taken out of its slot is one less in the books. -/
theorem entries_put_none (handle : Handle) {held : Holdings} {slot : Slot} {mapping : Held}
    (h : held.get slot = some mapping) :
    (entries handle held).Perm
      ((handle, mapping) :: entries handle (held.put slot Option.none)) := by
  obtain ⟨front, back, hs, hput⟩ := toList_split held slot
  unfold entries
  rw [hput, hs, h, List.flatMap_append, List.flatMap_append, List.flatMap_cons, List.flatMap_cons]
  exact List.perm_middle

end Holdings

/-! ## The middle of a call -/

/-- The books in the middle of a call on a session: nothing was done that was not permitted, the
mappings in force are those that the call holds, and the rest stands as it did. -/
structure Midway (standing : Option ClientCall × List String × Table Handle String)
    (handle : Handle) (held : Holdings) (uses : List Use) : Prop where
  lawful : Lawful uses
  stands : (books uses).standing = standing
  mapped : (books uses).mapped.Perm (held.entries handle)

namespace Midway

variable {standing : Option ClientCall × List String × Table Handle String} {handle : Handle}
  {held : Holdings} {uses uses' : List Use}

/-- Waking open sessions is permitted and changes nothing in the books. -/
theorem books_woken {awake : Handle → Prop} (hl : Lawful uses) (hw : Woken awake uses uses')
    (hawake : ∀ h, awake h → (books uses).sessions.contains h = true) :
    Lawful uses' ∧ books uses' = books uses := by
  obtain ⟨handles, rfl, hh⟩ := hw
  induction handles with
  | nil => exact ⟨hl, rfl⟩
  | cons first rest ih =>
    obtain ⟨hlr, hbr⟩ := ih fun h hm => hh h (List.mem_cons_of_mem _ hm)
    refine ⟨⟨?_, hlr⟩, hbr⟩
    show (books (rest.map Use.wake ++ uses)).sessions.contains first = true
    rw [hbr]
    exact hawake first (hh first List.mem_cons_self)

/-- Waking open sessions changes nothing in the middle of a call. -/
theorem woken {awake : Handle → Prop} (h : Midway standing handle held uses)
    (hw : Woken awake uses uses') (hawake : ∀ h, awake h → standing.2.2.contains h = true) :
    Midway standing handle held uses' ∧ (books uses').last = (books uses).last := by
  have hs : (books uses).sessions = standing.2.2 := congrArg (·.2.2) h.stands
  obtain ⟨hl, hb⟩ := books_woken h.lawful hw fun h' hh => by rw [hs]; exact hawake h' hh
  refine ⟨⟨hl, ?_, ?_⟩, by rw [hb]⟩
  · rw [hb]; exact h.stands
  · rw [hb]; exact h.mapped

/-- A session that is open when the call begins is open in its middle. -/
theorem contains (h : Midway standing handle held uses) :
    (books uses).sessions = standing.2.2 := congrArg (·.2.2) h.stands

end Midway

end TeeClient
