import TeeClient.Proofs.Isolation
import TeeClient.Proofs.Secrecy.Calls

/-!
# The same call in two worlds

A call on a session works at its `Seat`: the session and its page, the worker behind it, the
lifecycle of the operation that is carried, and, if the call lends memory, the client's memory with
what is mapped. What else there is the call neither looks at nor changes; it only adds to what is
counted and to what is recorded. `World.Alongside` says so of a call that is made in two worlds
which agree on the seat: the two runs do the same at the seat, and each world stays as it was
everywhere else. With one world twice it says what the call leaves alone.

No fault may be armed, since a fault is for whoever comes first, and the applications may cancel
nothing, since a token reaches any operation.

Main statements:

* `World.Alongside.comm`: two calls at seats that have nothing in common can be exchanged;
* `World.Alongside.play`: a program does the same in both worlds;
* `World.Alongside.notify`: a notification has the same request served in both worlds.
-/

namespace TeeClient

variable {κ α : Type}

/-! ## Tables -/

namespace Table

section Keys

variable {ι : Type} [DecidableEq ι]

/-- A key that is present stays in its place when its value is replaced. -/
theorem keys_set_of_contains {t : Table ι α} {key : ι} (h : t.contains key = true) (value : α) :
    (t.set key value).keys = t.keys := by
  unfold contains get? at h
  unfold set keys
  rw [dif_neg (Option.isSome_iff_ne_none.1 h)]
  exact map_fst_replace t.entries key value

/-- A key stays in its place when its value is changed. -/
theorem keys_modify (t : Table ι α) (key : ι) (f : α → α) : (t.modify key f).keys = t.keys := by
  unfold modify
  split
  · rfl
  next value hget => exact keys_set_of_contains (contains_iff.2 ⟨value, hget⟩) _

/-- Removing a key leaves the others in their places. -/
theorem keys_erase_sublist (t : Table ι α) (key : ι) : (t.erase key).keys.Sublist t.keys :=
  List.filter_sublist.map Prod.fst

/-- Entries whose keys come in one order are the same if the same values are found. -/
theorem eq_of_lookup_eq {names : List ι} (hnames : names.Nodup) {l m : List (ι × α)}
    (hl : (l.map Prod.fst).Sublist names) (hm : (m.map Prod.fst).Sublist names)
    (h : ∀ key, lookup l key = lookup m key) : l = m := by
  induction names generalizing l m with
  | nil =>
    rw [List.map_eq_nil_iff.1 (List.sublist_nil.1 hl),
      List.map_eq_nil_iff.1 (List.sublist_nil.1 hm)]
  | cons name rest ih =>
    obtain ⟨hname, hrest⟩ := List.nodup_cons.1 hnames
    -- the first name is the first key, or none
    have hfirst : ∀ {l : List (ι × α)}, (l.map Prod.fst).Sublist (name :: rest) →
        ((l.map Prod.fst).Sublist rest ∧ lookup l name = none) ∨
        ∃ value l', l = (name, value) :: l' ∧ (l'.map Prod.fst).Sublist rest ∧
          lookup l' name = none := by
      intro l hl
      have hnone : ∀ {l : List (ι × α)}, (l.map Prod.fst).Sublist rest → lookup l name = none :=
        fun hl => lookup_eq_none_iff.2 fun hmem => hname (hl.subset hmem)
      rcases List.sublist_cons_iff.1 hl with hl | ⟨keys, he, hkeys⟩
      · exact .inl ⟨hl, hnone hl⟩
      · obtain ⟨⟨key, value⟩, l', rfl, rfl, rfl⟩ := List.map_eq_cons_iff.1 he
        exact .inr ⟨value, l', rfl, hkeys, hnone hkeys⟩
    rcases hfirst hl with ⟨hl, hnone⟩ | ⟨value, l, rfl, hl, hnone⟩ <;>
      rcases hfirst hm with ⟨hm, hnone'⟩ | ⟨value', m, rfl, hm, hnone'⟩
    · exact ih hrest hl hm h
    · have hname := h name
      simp [hnone, lookup] at hname
    · have hname := h name
      simp [hnone', lookup] at hname
    · have hvalue := h name
      simp only [lookup, if_true, Option.some.injEq] at hvalue
      rw [hvalue, ih hrest hl hm fun key => ?_]
      by_cases hkey : name = key
      · rw [← hkey, hnone, hnone']
      · have hsame := h key
        simpa only [lookup, if_neg hkey] using hsame

/-- Tables whose keys come in one order are the same if the same values are found. -/
theorem eq_of_get?_eq {names : List ι} (hnames : names.Nodup) {s t : Table ι α}
    (hs : s.keys.Sublist names) (ht : t.keys.Sublist names) (h : ∀ key, s.get? key = t.get? key) :
    s = t :=
  Table.ext (eq_of_lookup_eq hnames hs ht h)

/-- A table in which nothing is found is empty. -/
theorem eq_empty {t : Table ι α} (h : ∀ key, t.get? key = none) : t = .empty :=
  Table.ext (List.length_eq_zero_iff.1 (size_eq_zero h))

end Keys

/-- A table has the entries of one table under the keys that are owned, and those of another under
all others, in the order of the other. -/
structure Beside {ι : Type} [DecidableEq ι] (Owned : ι → Prop) (t rest t' : Table ι α) :
    Prop where
  own : ∀ key, Owned key → t'.get? key = t.get? key
  others : ∀ key, ¬ Owned key → t'.get? key = rest.get? key
  keys : t'.keys.Sublist rest.keys

namespace Beside

variable {ι : Type} [DecidableEq ι] {Owned Owned' : ι → Prop} {t rest t' : Table ι α}

/-- A table that agrees with another on what is owned. -/
theorem of_agrees (h : ∀ key, Owned key → rest.get? key = t.get? key) :
    Beside Owned t rest rest :=
  ⟨h, fun _ _ => rfl, .refl _⟩

/-- What is owned may change both in a table and in the one `Beside` it. -/
theorem modify (h : Beside Owned t rest t') {key : ι} (hkey : Owned key) (f : α → α) :
    Beside Owned (t.modify key f) rest (t'.modify key f) where
  own other hother := by
    rw [get?_modify, get?_modify, h.own other hother]
  others other hother := by
    rw [get?_modify, if_neg fun he : other = key => hother (he ▸ hkey), h.others other hother]
  keys := by
    rw [keys_modify]
    exact h.keys

/-- What is owned may be removed both from a table and from the one `Beside` it. -/
theorem erase (h : Beside Owned t rest t') {key : ι} (hkey : Owned key) :
    Beside Owned (t.erase key) rest (t'.erase key) where
  own other hother := by
    rw [get?_erase, get?_erase, h.own other hother]
  others other hother := by
    rw [get?_erase, if_neg fun he : other = key => hother (he ▸ hkey), h.others other hother]
  keys := (keys_erase_sublist t' key).trans h.keys

/-- Two changes to a table that own different keys can be exchanged. -/
theorem comm {s s' r r' : Table ι α} (hapart : ∀ key, Owned key → ¬ Owned' key)
    (h : Beside Owned s t s) (h' : Beside Owned' s' t s') (hr : Beside Owned s s' r)
    (hr' : Beside Owned' s' s r') : r = r' := by
  -- either way a key is found as its owner left it, or as it was if nobody owns it
  refine eq_of_get?_eq t.nodup (hr.keys.trans h'.keys) (hr'.keys.trans h.keys) fun key => ?_
  by_cases hkey : Owned key
  · rw [hr.own key hkey, hr'.others key (hapart key hkey)]
  · rw [hr.others key hkey]
    by_cases hkey' : Owned' key
    · rw [hr'.own key hkey']
    · rw [hr'.others key hkey', h'.others key hkey', h.others key hkey]

end Beside

end Table

namespace Arena

/-- Numbered entries are those of one arena under the numbers that are owned, and those of another
under all others, as in `Table.Beside`; the next number is that of the other. -/
structure Beside (Owned : Nat → Prop) (a rest a' : Arena α) : Prop where
  table : Table.Beside Owned a.table rest.table a'.table
  next : a'.next = rest.next

namespace Beside

variable {Owned Owned' : Nat → Prop} {a rest a' : Arena α}

/-- Under a number that is owned, the same is found in an arena and in the one `Beside` it. -/
theorem own (h : Beside Owned a rest a') {key : Nat} (hkey : Owned key) :
    a'.get? key = a.get? key := h.table.own key hkey

/-- Under a number that is not owned, what is found is as it was. -/
theorem others (h : Beside Owned a rest a') {key : Nat} (hkey : ¬ Owned key) :
    a'.get? key = rest.get? key := h.table.others key hkey

/-- Entries that agree with others on what is owned. -/
theorem of_agrees (h : ∀ key, Owned key → rest.get? key = a.get? key) :
    Beside Owned a rest rest :=
  ⟨.of_agrees h, rfl⟩

/-- What is owned may change both in an arena and in the one `Beside` it. -/
theorem modify (h : Beside Owned a rest a') {key : Nat} (hkey : Owned key) (f : α → α) :
    Beside Owned (a.modify key f) rest (a'.modify key f) :=
  ⟨h.table.modify hkey f, h.next⟩

/-- Two changes to an arena that own different numbers can be exchanged. -/
theorem comm {s s' r r' : Arena α} (hapart : ∀ key, Owned key → ¬ Owned' key)
    (h : Beside Owned s a s) (h' : Beside Owned' s' a s') (hr : Beside Owned s s' r)
    (hr' : Beside Owned' s' s r') : r = r' :=
  Arena.ext (by rw [hr.next, h'.next, hr'.next, h.next])
    (Table.Beside.comm hapart h.table h'.table hr.table hr'.table)

end Beside

end Arena

/-! ## Counts and histories -/

namespace Usage

/-- Uses on top of uses. -/
def plus (n more : Usage) : Usage where
  deviceOpens := n.deviceOpens + more.deviceOpens
  deviceCloses := n.deviceCloses + more.deviceCloses
  opens := n.opens + more.opens
  closes := n.closes + more.closes
  maps := n.maps + more.maps
  unmaps := n.unmaps + more.unmaps
  notifies := n.notifies + more.notifies
  waits := n.waits + more.waits

/-- No use at all. -/
def none : Usage := ⟨0, 0, 0, 0, 0, 0, 0, 0⟩

/-- Uses may come on top of others in either order. -/
theorem plus_right_comm (n more more' : Usage) :
    (n.plus more).plus more' = (n.plus more').plus more := by
  simp only [plus, Nat.add_right_comm]

end Usage

/-- Two histories have grown by the same entries, the latest first. -/
def GrownAlike (start start' l l' : List α) : Prop :=
  ∃ new, l = new ++ start ∧ l' = new ++ start'

namespace GrownAlike

variable {start start' l l' : List α}

/-- Two histories need not have grown. -/
theorem refl (start start' : List α) : GrownAlike start start' start start' := ⟨[], rfl, rfl⟩

/-- The same entry may be added to two histories. -/
theorem cons (h : GrownAlike start start' l l') (entry : α) :
    GrownAlike start start' (entry :: l) (entry :: l') := by
  obtain ⟨new, rfl, rfl⟩ := h
  exact ⟨entry :: new, rfl, rfl⟩

/-- Two histories in which the same was entered in opposite order. -/
theorem exchanged {l l₁ l₂ l₁₂ l₂₁ : List α} (h : GrownAlike l l₂ l₁ l₂₁)
    (h' : GrownAlike l l₁ l₂ l₁₂) :
    ∃ new new', l₁₂ = new' ++ (new ++ l) ∧ l₂₁ = new ++ (new' ++ l) := by
  obtain ⟨new, rfl, rfl⟩ := h
  obtain ⟨new', rfl, rfl⟩ := h'
  exact ⟨new, new', rfl, rfl⟩

end GrownAlike

/-! ## Seats -/

/-- What belongs to a call on a session. -/
structure Seat where
  /-- The session. -/
  id : ChannelId
  /-- The client's end of it, if it is active. -/
  channel : Option Channel
  /-- The lifecycle of the operation that is carried, if there is one. -/
  lifecycle : Option LifecycleId
  /-- The call may map buffers. -/
  lends : Prop

namespace Seat

/-- The page is that of the session. -/
def Lodges (seat : Seat) (page : PageId) : Prop := ∃ ch, seat.channel = some ch ∧ ch.page = page

/-- The handle is that of the session. -/
def Hires (seat : Seat) (handle : Handle) : Prop :=
  ∃ ch, seat.channel = some ch ∧ ch.handle = handle

/-- The seats have nothing in common. -/
structure Apart (seat seat' : Seat) : Prop where
  id : seat.id ≠ seat'.id
  page : ∀ page, seat.Lodges page → ¬ seat'.Lodges page
  handle : ∀ handle, seat.Hires handle → ¬ seat'.Hires handle
  lifecycle : ∀ id, seat.lifecycle = some id → seat'.lifecycle ≠ some id
  lends : seat.lends → ¬ seat'.lends

/-- Seats that have nothing in common have nothing in common the other way round. -/
theorem Apart.symm {seat seat' : Seat} (h : seat.Apart seat') : seat'.Apart seat where
  id := h.id.symm
  page page hp hp' := h.page page hp' hp
  handle handle hh hh' := h.handle handle hh' hh
  lifecycle id hl hl' := h.lifecycle id hl' hl
  lends hl hl' := h.lends hl' hl

end Seat

/-- On no path does the program cancel anything. -/
def Program.CancelsNothing : Program κ → Prop
  | .finish .. => True
  | .panic => True
  | .ask _ next => ∀ answer, (next answer).CancelsNothing
  | .cancel .. => False
  | .report _ next => next.CancelsNothing

/-- No entry point of the application cancels anything. -/
def App.CancelsNothing (app : App κ) : Prop :=
  ∀ instruction command state, (app.entry instruction command state).CancelsNothing

/-! ## Two secure worlds -/

namespace SecureWorld

/-- What the end of a run comes to where no fault is armed. -/
theorem conclude_of_calm {s : Shared (SecureWorld κ)} (hcalm : s.driver.Calm) (handle : Handle)
    (page : PageId) (origin status : UInt32) (state : κ) :
    conclude handle page origin status state s =
      { s.onPage page (·.setResult origin status) with
        driver := s.driver.onWorker handle fun worker => { worker with
          state
          completions := worker.completions ++ [.served] } } := by
  obtain ⟨⟨apps, sessions, mappings, nextHandle, nextVa, faults, usage, runs⟩, journal, pages,
    memory⟩ := s
  obtain rfl : faults = ⟨none, none, none, false, none, none⟩ := hcalm
  rfl

/-- Where no fault is armed, a notification is heard by a worker that is alive. -/
theorem ring_of_calm {w : SecureWorld κ} (hcalm : w.Calm) (handle : Handle) :
    (ring handle w).1 = if (w.sessions.get? handle).any (·.alive) then .ok ()
      else .error (.invalidSession handle) := by
  unfold ring knock
  simp only [faults_count, show w.faults = _ from hcalm]
  rfl

/-- The same has been done at a seat in two secure worlds, of which one has come from `start` to `w`
and the other from `start'` to `w'`; elsewhere the other is as it was. -/
structure Alongside (seat : Seat) (start start' w w' : SecureWorld κ) : Prop where
  apps : w'.apps = start'.apps
  sessions : Table.Beside seat.Hires w.sessions start'.sessions w'.sessions
  /-- What belongs to the seat cancels nothing. -/
  discreet : ∀ handle worker, seat.Hires handle → w.sessions.get? handle = some worker →
    worker.app.CancelsNothing
  mappings : w'.mappings = w.mappings
  /-- Where the call lends nothing, nothing is mapped. -/
  bare : ¬ seat.lends → w.mappings = .empty ∧ start'.mappings = .empty
  nextHandle : w'.nextHandle = start'.nextHandle
  lent : seat.lends → w'.nextVa = w.nextVa
  kept : ¬ seat.lends → w'.nextVa = start'.nextVa
  calm : w.Calm
  calm' : w'.Calm
  usage : ∃ more, w.usage = start.usage.plus more ∧ w'.usage = start'.usage.plus more
  runs : GrownAlike start.runs start'.runs w.runs w'.runs

namespace Alongside

variable {seat : Seat} {start start' w w' : SecureWorld κ} {handle : Handle}

/-- The worker of the seat is the same in both worlds. -/
theorem worker (h : Alongside seat start start' w w') (hh : seat.Hires handle) :
    w'.sessions.get? handle = w.sessions.get? handle := h.sessions.own handle hh

/-- Uses may be counted in both worlds. -/
theorem count (h : Alongside seat start start' w w') {f : Usage → Usage}
    (hf : ∀ n more : Usage, f (n.plus more) = n.plus (f more)) :
    Alongside seat start start' (w.count f) (w'.count f) where
  apps := h.apps
  sessions := h.sessions
  discreet := h.discreet
  mappings := h.mappings
  bare := h.bare
  nextHandle := h.nextHandle
  lent := h.lent
  kept := h.kept
  calm := h.calm
  calm' := h.calm'
  usage := by
    obtain ⟨more, hw, hw'⟩ := h.usage
    refine ⟨f more, ?_, ?_⟩
    · show f w.usage = _
      rw [hw, hf]
    · show f w'.usage = _
      rw [hw', hf]
  runs := h.runs

/-- The worker of the seat may change in both worlds, if it keeps its application. -/
theorem onWorker (h : Alongside seat start start' w w') (hh : seat.Hires handle)
    {f : Worker κ → Worker κ} (hf : ∀ worker, (f worker).app = worker.app) :
    Alongside seat start start' (w.onWorker handle f) (w'.onWorker handle f) where
  apps := h.apps
  sessions := h.sessions.modify hh f
  discreet other worker ho hworker := by
    have hworker : (w.sessions.modify handle f).get? other = some worker := hworker
    rw [Table.get?_modify] at hworker
    split at hworker
    · obtain ⟨before, hbefore, rfl⟩ := Option.map_eq_some_iff.1 hworker
      rw [hf]
      exact h.discreet other before ho hbefore
    · exact h.discreet other worker ho hworker
  mappings := h.mappings
  bare := h.bare
  nextHandle := h.nextHandle
  lent := h.lent
  kept := h.kept
  calm := h.calm
  calm' := h.calm'
  usage := h.usage
  runs := h.runs

/-- A run may be entered in both histories. -/
theorem enter (h : Alongside seat start start' w w') (run : Run) :
    Alongside seat start start' { w with runs := run :: w.runs }
      { w' with runs := run :: w'.runs } :=
  { h with runs := h.runs.cons run }

/-- The bell may be rung in both worlds. -/
theorem ring (h : Alongside seat start start' w w') (hh : seat.Hires handle) :
    (SecureWorld.ring handle w').1 = (SecureWorld.ring handle w).1 ∧
      Alongside seat start start' (SecureWorld.ring handle w).2
        (SecureWorld.ring handle w').2 := by
  have hcounted := h.count (f := fun n => { n with notifies := n.notifies + 1 }) fun _ _ => rfl
  refine ⟨?_, by rwa [ring_snd, ring_snd]⟩
  rw [ring_of_calm h.calm, ring_of_calm h.calm', h.worker hh]

/-- A wait ends in the same way in both worlds. -/
theorem wait (h : Alongside seat start start' w w') (hh : seat.Hires handle) :
    (SecureWorld.wait handle w').1 = (SecureWorld.wait handle w).1 ∧
      Alongside seat start start' (SecureWorld.wait handle w).2
        (SecureWorld.wait handle w').2 := by
  have hcounted := h.count (f := fun n => { n with waits := n.waits + 1 }) fun _ _ => rfl
  unfold SecureWorld.wait
  simp only [sessions_count, h.worker hh]
  cases w.sessions.get? handle with
  | none => exact ⟨rfl, hcounted⟩
  | some worker =>
    simp only
    cases worker.completions with
    | nil => exact ⟨rfl, hcounted⟩
    | cons completion rest => exact ⟨rfl, hcounted.onWorker hh fun _ => rfl⟩

/-- The error code is the same in both worlds. -/
theorem errorCode (h : Alongside seat start start' w w') (hh : seat.Hires handle) :
    SecureWorld.errorCode handle w' = SecureWorld.errorCode handle w := by
  unfold SecureWorld.errorCode
  rw [h.worker hh]

/-- A buffer that the call may lend is mapped at the same address in both; where the call lends
nothing, it is refused in both. -/
theorem map (h : Alongside seat start start' w w') (hh : seat.Hires handle) (address : Address)
    (len : Nat) (access : Access)
    (hlends : ¬ seat.lends → (SecureWorld.map handle address len access w).1.isOk = false) :
    (SecureWorld.map handle address len access w').1
        = (SecureWorld.map handle address len access w).1 ∧
      Alongside seat start start' (SecureWorld.map handle address len access w).2
        (SecureWorld.map handle address len access w').2 := by
  have hcounted := h.count (f := fun n => { n with maps := n.maps + 1 }) fun _ _ => rfl
  have hserved : w'.sessions.contains handle = w.sessions.contains handle :=
    congrArg Option.isSome (h.worker hh)
  rw [map_eq_of_calm h.calm] at hlends ⊢
  rw [map_eq_of_calm h.calm', hserved]
  split
  next hserves =>
    split
    next hfits =>
      rw [if_pos hserves, if_pos hfits] at hlends
      -- a buffer was mapped, so the call may lend, and both map at the address that comes next
      have hmay : seat.lends := Classical.byContradiction fun hnot => by cases hlends hnot
      rw [h.lent hmay]
      exact ⟨rfl, { hcounted with
        mappings := by rw [h.mappings]
        bare := fun hnot => absurd hmay hnot
        lent := fun _ => rfl
        kept := fun hnot => absurd hmay hnot }⟩
    · exact ⟨rfl, hcounted⟩
  · exact ⟨rfl, hcounted⟩

/-- A mapping is removed in both worlds, where there may be one. -/
theorem unmap (h : Alongside seat start start' w w') (hlends : seat.lends) (handle : Handle)
    (address : Address) (info : SecureRange) :
    (SecureWorld.unmap handle address info w').1 = (SecureWorld.unmap handle address info w).1 ∧
      Alongside seat start start' (SecureWorld.unmap handle address info w).2
        (SecureWorld.unmap handle address info w').2 := by
  have hcounted := h.count (f := fun n => { n with unmaps := n.unmaps + 1 }) fun _ _ => rfl
  unfold SecureWorld.unmap
  simp only [show ∀ w : SecureWorld κ, ∀ f, (w.count f).mappings = w.mappings from fun _ _ => rfl,
    h.mappings]
  cases w.mappings.get? info.secureVa with
  | none => exact ⟨rfl, hcounted⟩
  | some mapping =>
    simp only
    split
    · exact ⟨rfl, { hcounted with
        mappings := rfl
        bare := fun hnot => absurd hlends hnot }⟩
    · exact ⟨rfl, hcounted⟩

/-- The session is closed in both worlds. -/
theorem closeSession {d d' : Desk (SecureWorld κ)}
    (h : Alongside seat start start' d.driver d'.driver) {j j' : Journal}
    (hj : GrownAlike j j' d.journal d'.journal) (hh : seat.Hires handle) :
    (SecureWorld.closeSession handle d').1 = (SecureWorld.closeSession handle d).1 ∧
      Alongside seat start start' (SecureWorld.closeSession handle d).2.driver
        (SecureWorld.closeSession handle d').2.driver ∧
      GrownAlike j j' (SecureWorld.closeSession handle d).2.journal
        (SecureWorld.closeSession handle d').2.journal := by
  have hcounted := h.count (f := fun n => { n with closes := n.closes + 1 }) fun _ _ => rfl
  unfold SecureWorld.closeSession
  simp only [sessions_count, h.worker hh]
  cases d.driver.sessions.get? handle with
  | none => exact ⟨rfl, hcounted, hj⟩
  | some worker =>
    have hclosed : Alongside seat start start'
        { d.driver.count (fun n => { n with closes := n.closes + 1 }) with
          sessions := d.driver.sessions.erase handle }
        { d'.driver.count (fun n => { n with closes := n.closes + 1 }) with
          sessions := d'.driver.sessions.erase handle } := { hcounted with
      sessions := h.sessions.erase hh
      discreet := fun other worker ho hworker => by
        rw [Table.get?_erase] at hworker
        split at hworker
        · cases hworker
        · exact h.discreet other worker ho hworker }
    simp only
    cases worker.alive
    · exact ⟨trivial, hclosed, (hj.cons _).cons _⟩
    · exact ⟨trivial, hclosed, hj.cons _⟩

end Alongside

end SecureWorld

/-! ## Two worlds -/

namespace World

open SecureWorld

/-- A notification finds nothing to do, or the request that is published in the page of the seat. -/
def FindsOnly (seat : Seat) (handle : Handle) (w : World (SecureWorld κ)) : Prop :=
  Idle handle w.toShared ∨ ∃ worker instruction,
    seat.Lodges worker.page ∧ Finds handle worker instruction w.toShared

/-- The same has been done at a seat in two worlds, of which one has come from `start` to `w` and
the other from `start'` to `w'`; elsewhere the other is as it was. -/
structure Alongside (seat : Seat) (start start' w w' : World (SecureWorld κ)) : Prop where
  driver : SecureWorld.Alongside seat start.driver start'.driver w.driver w'.driver
  journal : GrownAlike start.journal start'.journal w.journal w'.journal
  pages : Arena.Beside seat.Lodges w.pages start'.pages w'.pages
  lent : seat.lends → w'.memory = w.memory
  kept : ¬ seat.lends → w'.memory = start'.memory
  channels : Arena.Beside (· = seat.id) w.channels start'.channels w'.channels
  lifecycles : Arena.Beside (seat.lifecycle = some ·) w.lifecycles start'.lifecycles w'.lifecycles
  tokens : w'.tokens = start'.tokens

namespace Alongside

variable {seat : Seat} {start start' w w' : World (SecureWorld κ)} {page : PageId} {handle : Handle}

/-- The page of the seat is the same in both worlds. -/
theorem page_eq (h : Alongside seat start start' w w') (hp : seat.Lodges page) :
    w'.page page = w.page page := by
  unfold Shared.page
  rw [h.pages.own hp]

/-- A log record may be entered in both worlds. -/
theorem log (h : Alongside seat start start' w w') (r : Record) :
    Alongside seat start start' (w.log r) (w'.log r) :=
  { h with journal := h.journal.cons _ }

/-- The page may change in both worlds. -/
theorem onPage (h : Alongside seat start start' w w') (hp : seat.Lodges page) (f : Page → Page) :
    Alongside seat start start' (w.onPage page f) (w'.onPage page f) :=
  { h with pages := h.pages.modify hp f }

/-- The lifecycle of the seat may change in both worlds. -/
theorem onLifecycle (h : Alongside seat start start' w w') {id : LifecycleId}
    (hl : seat.lifecycle = some id) (f : Lifecycle → Lifecycle) :
    Alongside seat start start' (w.onLifecycle id f) (w'.onLifecycle id f) :=
  { h with lifecycles := h.lifecycles.modify hl f }

/-- The client's end of the session of the seat may change in both worlds. -/
theorem onChannel (h : Alongside seat start start' w w') (f : Channel → Channel) :
    Alongside seat start start' (w.onChannel seat.id f) (w'.onChannel seat.id f) :=
  { h with channels := h.channels.modify rfl f }

/-- The driver may go on in both worlds. -/
theorem withDriver (h : Alongside seat start start' w w') {driver driver' : SecureWorld κ}
    (hd : SecureWorld.Alongside seat start.driver start'.driver driver driver') :
    Alongside seat start start' (w.withDriver driver) (w'.withDriver driver') :=
  { h with driver := hd }

/-! ### Programs -/

/-- What an application acts on may change in both worlds. -/
theorem withChamber (h : Alongside seat start start' w w') (hp : seat.Lodges page)
    {chamber chamber' : Chamber} (hpage : chamber'.page = chamber.page)
    (hlent : seat.lends → chamber'.memory = chamber.memory)
    (hkept : ¬ seat.lends → chamber'.memory = start'.memory) :
    Alongside seat start start' (w.withChamber page chamber) (w'.withChamber page chamber') :=
  { h with
    pages := by
      show Arena.Beside _ (w.pages.modify page _) _ (w'.pages.modify page _)
      rw [hpage]
      exact h.pages.modify hp _
    lent := hlent
    kept := hkept }

/-- What an application asks is answered in the same way in both worlds, and the worlds may go on
with what it leaves. -/
theorem answer (h : Alongside seat start start' w w') (hp : seat.Lodges page) (login : Login)
    (query : Query) :
    (query.answer w.driver.mappings login (w.chamber page) = none ∧
      query.answer w'.driver.mappings login (w'.chamber page) = none) ∨
    ∃ answer chamber chamber',
      query.answer w.driver.mappings login (w.chamber page) = some (answer, chamber) ∧
      query.answer w'.driver.mappings login (w'.chamber page) = some (answer, chamber') ∧
      Alongside seat start start' (w.withChamber page chamber) (w'.withChamber page chamber') := by
  have hchamber : w'.chamber page = (w.chamber page).withMemory w'.memory :=
    congrArg (fun p => (⟨p, w'.memory⟩ : Chamber)) (h.page_eq hp)
  rw [h.driver.mappings, hchamber]
  by_cases hlends : seat.lends
  · -- both act on the same page and on the same memory
    have hsame : (w.chamber page).withMemory w'.memory = w.chamber page :=
      congrArg (fun m => (⟨w.page page, m⟩ : Chamber)) (h.lent hlends)
    rw [hsame]
    cases hanswer : query.answer w.driver.mappings login (w.chamber page) with
    | none => exact .inl ⟨rfl, rfl⟩
    | some answered =>
      exact .inr ⟨answered.1, answered.2, answered.2, rfl, rfl,
        h.withChamber hp rfl (fun _ => rfl) fun hnot => absurd hlends hnot⟩
  · -- nothing is mapped, so that no answer depends on memory
    rw [(h.driver.bare hlends).1]
    have hunreached : (Question.mk query .empty login (w.chamber page)).reached? = none := by
      cases hr : (Question.mk query .empty login (w.chamber page)).reached? with
      | none => rfl
      | some found => exact nomatch Question.mapped_of_reached hr
    rw [Question.answer_of_unreached w'.memory hunreached]
    cases hanswer : query.answer .empty login (w.chamber page) with
    | none => exact .inl ⟨rfl, rfl⟩
    | some answered =>
      exact .inr ⟨answered.1, answered.2, answered.2.withMemory w'.memory, rfl, rfl,
        h.withChamber hp rfl (fun hl => absurd hl hlends) fun _ => h.kept hlends⟩

/-- A program that cancels nothing comes to the same end in both worlds. -/
theorem play (h : Alongside seat start start' w w') (hp : seat.Lodges page) (login : Login)
    {program : Program κ} (hdiscreet : program.CancelsNothing) :
    (w'.play page login program).1 = (w.play page login program).1 ∧
      Alongside seat start start' (w.play page login program).2
        (w'.play page login program).2 := by
  induction program generalizing w w' with
  | finish result state => exact ⟨rfl, h⟩
  | panic => exact ⟨rfl, h⟩
  | cancel token next => exact hdiscreet.elim
  | report event next ih =>
    rw [play_report, play_report]
    have hnoted : Alongside seat start start' (w.withShared (w.toShared.note event))
        (w'.withShared (w'.toShared.note event)) := { h with journal := h.journal.cons _ }
    exact ih hnoted hdiscreet
  | ask query next ih =>
    rw [play_ask, play_ask]
    rcases h.answer hp login query with ⟨hnone, hnone'⟩ | ⟨answer, chamber, chamber', hsome, hsome',
      hleft⟩
    · rw [hnone, hnone']
      exact ⟨rfl, h⟩
    · rw [hsome, hsome']
      exact ih answer hleft (hdiscreet answer)

/-! ### Notifications -/

/-- A worker of the seat finds a request in both or in none. -/
theorem finds_iff (h : Alongside seat start start' w w') (hh : seat.Hires handle)
    {worker : Worker κ} (hp : seat.Lodges worker.page) {instruction : Instruction} :
    Finds handle worker instruction w'.toShared ↔ Finds handle worker instruction w.toShared := by
  have hheard : w'.driver.faults.notify = w.driver.faults.notify := by
    rw [h.driver.calm, h.driver.calm']
  have hhired := h.driver.worker hh
  have hpage := h.page_eq hp
  constructor
  · exact fun hf => ⟨hheard ▸ hf.heard, hhired ▸ hf.hired, hf.alive, hpage ▸ hf.ready,
      hpage ▸ hf.known⟩
  · exact fun hf => ⟨hheard.trans hf.heard, hhired.trans hf.hired, hf.alive,
      (congrArg Page.ready hpage).trans hf.ready,
      (congrArg (fun p => Instruction.ofRaw? p.request.instruction) hpage).trans hf.known⟩

/-- A program ends in the same way for its worker. -/
theorem left (h : Alongside seat start start' w w') (hh : seat.Hires handle)
    (hp : seat.Lodges page) (instruction : Instruction)
    (ended : Option (Except Status Unit × κ)) :
    Alongside seat start start'
      (w.withShared (SecureWorld.left handle page instruction ended w.toShared))
      (w'.withShared (SecureWorld.left handle page instruction ended w'.toShared)) := by
  cases ended with
  | none => exact h.withDriver (h.driver.onWorker hh fun _ => rfl)
  | some ended =>
    unfold SecureWorld.left
    simp only [conclude_of_calm h.driver.calm, conclude_of_calm h.driver.calm']
    exact (h.onPage hp _).withDriver (h.driver.onWorker hh fun _ => rfl)

/-- A request is served in the same way in both worlds. -/
theorem served (h : Alongside seat start start' w w') (hh : seat.Hires handle)
    {worker : Worker κ} (hp : seat.Lodges worker.page) {instruction : Instruction}
    (hf : Finds handle worker instruction w.toShared) :
    Alongside seat start start' (w.served handle worker instruction)
      (w'.served handle worker instruction) := by
  have hconsumed : Alongside seat start start' (w.consumed handle worker.page)
      (w'.consumed handle worker.page) := (h.withDriver (h.driver.ring hh).2).onPage hp _
  have htaken : Alongside seat start start' (w.takenUp handle worker instruction)
      (w'.takenUp handle worker instruction) := by
    unfold takenUp
    simp only [hconsumed.page_eq hp]
    exact hconsumed.withDriver (hconsumed.driver.enter _)
  -- the program that is due is the same, and its end as well
  have hdue : w'.due worker instruction = w.due worker instruction := by
    unfold due
    rw [h.page_eq hp]
  obtain ⟨hended, hperformed⟩ := htaken.play hp worker.login
    (h.driver.discreet handle worker hh hf.hired instruction
      (w.page worker.page).request.command worker.state)
  unfold World.served World.performed
  rw [hdue]
  unfold due
  simp only [hended]
  exact hperformed.left hh hp instruction _

/-- A notification does the same in both, if it finds nothing to do but what is published in the
page of the seat. -/
theorem notify (h : Alongside seat start start' w w') (hh : seat.Hires handle)
    (hfinds : FindsOnly seat handle w) (hfinds' : FindsOnly seat handle w') :
    (w'.onShared SecureWorld.driver (SecureWorld.notify handle)).1
        = (w.onShared SecureWorld.driver (SecureWorld.notify handle)).1 ∧
      Alongside seat start start' (w.onShared SecureWorld.driver (SecureWorld.notify handle)).2
        (w'.onShared SecureWorld.driver (SecureWorld.notify handle)).2 := by
  -- a request that is found is not overlooked
  have hexcludes : ∀ {w : World (SecureWorld κ)} {worker instruction},
      Idle handle w.toShared → ¬ Finds handle worker instruction w.toShared := by
    intro w worker instruction hidle hf
    have hready := hidle worker hf.heard hf.hired hf.alive
    rw [hf.ready] at hready
    cases hready
  rcases hfinds with hidle | ⟨worker, instruction, hp, hf⟩
  · have hidle' : Idle handle w'.toShared := by
      rcases hfinds' with hidle' | ⟨worker, instruction, hp, hf⟩
      · exact hidle'
      · exact absurd ((h.finds_iff hh hp).1 hf) (hexcludes hidle)
    obtain ⟨hrung, hafter⟩ := h.driver.ring hh
    rw [onShared_notify_of_idle hidle, onShared_notify_of_idle hidle']
    exact ⟨hrung, h.withDriver hafter⟩
  · have hf' := (h.finds_iff hh hp).2 hf
    rw [onShared_notify_of_finds hf, onShared_notify_of_finds hf']
    exact ⟨rfl, h.served hh hp hf⟩

/-! ### Two calls -/

/-- At the beginning nothing is done. -/
theorem refl (seat : Seat) (calm : w.driver.Calm)
    (discreet : ∀ handle worker, seat.Hires handle → w.driver.sessions.get? handle = some worker →
      worker.app.CancelsNothing)
    (bare : w.driver.mappings = .empty) : Alongside seat w w w w where
  driver := {
    apps := rfl
    sessions := .of_agrees fun _ _ => rfl
    discreet
    mappings := rfl
    bare := fun _ => ⟨bare, bare⟩
    nextHandle := rfl
    lent := fun _ => rfl
    kept := fun _ => rfl
    calm
    calm' := calm
    usage := ⟨.none, rfl, rfl⟩
    runs := .refl _ _ }
  journal := .refl _ _
  pages := .of_agrees fun _ _ => rfl
  lent _ := rfl
  kept _ := rfl
  channels := .of_agrees fun _ _ => rfl
  lifecycles := .of_agrees fun _ _ => rfl
  tokens := rfl

/-- What a call at one seat leaves is fit for another seat. -/
theorem beside {other : Seat} (h : Alongside seat w w w' w') (hapart : seat.Apart other)
    (calm : w.driver.Calm)
    (discreet : ∀ handle worker, other.Hires handle → w.driver.sessions.get? handle = some worker →
      worker.app.CancelsNothing)
    (bare : w.driver.mappings = .empty) (bare' : w'.driver.mappings = .empty) :
    Alongside other w w' w w' where
  driver := {
    apps := rfl
    sessions := .of_agrees fun handle hh => h.driver.sessions.others handle fun hh' =>
      hapart.handle handle hh' hh
    discreet
    mappings := bare'.trans bare.symm
    bare := fun _ => ⟨bare, bare'⟩
    nextHandle := rfl
    lent := fun hl => h.driver.kept fun hl' => hapart.lends hl' hl
    kept := fun _ => rfl
    calm
    calm' := h.driver.calm'
    usage := ⟨.none, rfl, rfl⟩
    runs := .refl _ _ }
  journal := .refl _ _
  pages := .of_agrees fun page hp => h.pages.others fun hp' => hapart.page page hp' hp
  lent hl := h.kept fun hl' => hapart.lends hl' hl
  kept _ := rfl
  channels := .of_agrees fun _ hid => h.channels.others fun hid' => hapart.id (hid'.symm.trans hid)
  lifecycles := .of_agrees fun id hl => h.lifecycles.others fun hl' =>
    hapart.lifecycle id hl' hl
  tokens := rfl

end Alongside

/-- The world without what was recorded of its past. -/
def withoutHistory (w : World (SecureWorld κ)) : World (SecureWorld κ) :=
  { w with
    driver := { w.driver with runs := [] }
    journal := [] }

/-- Two calls at seats that have nothing in common can be exchanged: the second leaves the same
world as if it had come first, up to the order of what was recorded. -/
theorem Alongside.comm {seat seat' : Seat} (hapart : seat.Apart seat')
    {w w₁ w₂ w₁₂ w₂₁ : World (SecureWorld κ)} (h₁ : Alongside seat w w w₁ w₁)
    (h₂ : Alongside seat' w w w₂ w₂) (h₂₁ : Alongside seat w w₂ w₁ w₂₁)
    (h₁₂ : Alongside seat' w w₁ w₂ w₁₂) : w₁₂.withoutHistory = w₂₁.withoutHistory := by
  obtain ⟨more, hmore, hmore'⟩ := h₂₁.driver.usage
  obtain ⟨more', hothers, hothers'⟩ := h₁₂.driver.usage
  have husage : w₁₂.driver.usage = w₂₁.driver.usage := by
    rw [hmore', hothers', hmore, hothers, Usage.plus_right_comm]
  -- what is lent to one of the calls is left alone by the other
  have hlent : w₁₂.driver.nextVa = w₂₁.driver.nextVa ∧ w₁₂.memory = w₂₁.memory := by
    by_cases hl : seat.lends
    · have hnot := hapart.lends hl
      exact ⟨(h₁₂.driver.kept hnot).trans (h₂₁.driver.lent hl).symm,
        (h₁₂.kept hnot).trans (h₂₁.lent hl).symm⟩
    · have hkept : w₂₁.driver.nextVa = w₂.driver.nextVa ∧ w₂₁.memory = w₂.memory :=
        ⟨h₂₁.driver.kept hl, h₂₁.kept hl⟩
      by_cases hl' : seat'.lends
      · exact ⟨(h₁₂.driver.lent hl').trans hkept.1.symm, (h₁₂.lent hl').trans hkept.2.symm⟩
      · rw [hkept.1, hkept.2, h₁₂.driver.kept hl', h₁₂.kept hl', h₁.driver.kept hl, h₁.kept hl,
          h₂.driver.kept hl', h₂.kept hl']
        exact ⟨rfl, rfl⟩
  have hmappings : w₁₂.driver.mappings = w₂₁.driver.mappings := by
    rw [h₁₂.driver.mappings, h₂₁.driver.mappings]
    by_cases hl : seat.lends
    · obtain ⟨hbare, hbare'⟩ := h₁₂.driver.bare (hapart.lends hl)
      exact hbare.trans hbare'.symm
    · obtain ⟨hbare, hbare'⟩ := h₂₁.driver.bare hl
      exact hbare'.trans hbare.symm
  unfold withoutHistory
  simp only [World.mk.injEq, Shared.mk.injEq, SecureWorld.mk.injEq]
  refine ⟨⟨⟨?_, ?_, hmappings, ?_, hlent.1, ?_, husage, trivial⟩, trivial, ?_, hlent.2⟩, ?_, ?_, ?_⟩
  · rw [h₁₂.driver.apps, h₁.driver.apps, h₂₁.driver.apps, h₂.driver.apps]
  · exact (Table.Beside.comm hapart.handle h₁.driver.sessions h₂.driver.sessions
      h₂₁.driver.sessions h₁₂.driver.sessions).symm
  · rw [h₁₂.driver.nextHandle, h₁.driver.nextHandle, h₂₁.driver.nextHandle, h₂.driver.nextHandle]
  · rw [h₁₂.driver.calm', h₂₁.driver.calm']
  · exact (Arena.Beside.comm hapart.page h₁.pages h₂.pages h₂₁.pages h₁₂.pages).symm
  · exact (Arena.Beside.comm (fun _ hid hid' => hapart.id (hid.symm.trans hid')) h₁.channels
      h₂.channels h₂₁.channels h₁₂.channels).symm
  · exact (Arena.Beside.comm hapart.lifecycle h₁.lifecycles h₂.lifecycles h₂₁.lifecycles
      h₁₂.lifecycles).symm
  · rw [h₁₂.tokens, h₁.tokens, h₂₁.tokens, h₂.tokens]

end World

end TeeClient
