import TeeClient.SecureWorld

/-!
# What the primitives of a secure world come to

Each primitive that runs no application does one thing or refuses to. What it answers then, and what
it leaves, is said here once, and whatever else is said of a primitive follows from that. Every use
is counted, also one that is refused.

Main statements:

* `SecureWorld.openSession_cases` and `SecureWorld.closeSession_cases`: a worker is started or
  stopped;
* `SecureWorld.map_cases` and `SecureWorld.unmap_cases`: a mapping is entered or removed;
* `SecureWorld.wait_cases`: a completion is delivered, by `SecureWorld.wait_of_cons`, unless there
  is none;
* `SecureWorld.ring_cases`: a notification finds a worker that is alive, or is refused;
* `Chamber.writes`: an application writes through a mapped buffer, in one of four cases.
-/

namespace TeeClient

variable {κ : Type}

/-- The worker of a session that was just opened. -/
def Worker.fresh (page : PageId) (login : Login) (app : App κ) : Worker κ :=
  ⟨page, app, app.initial, login, true, [], ExitCode.none⟩

/-- What a wait answers that delivers a completion. -/
def Completion.answer : Completion → Except DriverFault Unit
  | served => .ok ()
  | exited => .error .infoNotification

namespace SecureWorld

/-- Counting the use of a primitive changes no session. -/
@[simp] theorem sessions_count (w : SecureWorld κ) (f : Usage → Usage) :
    (w.count f).sessions = w.sessions := rfl

/-- Counting the use of a primitive arms no fault. -/
@[simp] theorem faults_count (w : SecureWorld κ) (f : Usage → Usage) :
    (w.count f).faults = w.faults := rfl

/-! ## Sessions -/

/-- Opening a session starts a fresh instance of the application that is installed, under the next
handle, or is refused; a fault that was armed for it is used up then. -/
theorem openSession_cases (destination : Uuid) (login : Login) (page : PageId)
    (d : Desk (SecureWorld κ)) :
    (∃ app, d.driver.apps.get? destination = some app ∧
      openSession destination login page d = (.ok d.driver.nextHandle,
        { d with driver := { d.driver.count (fun n => { n with opens := n.opens + 1 }) with
            nextHandle := d.driver.nextHandle + 1
            sessions := d.driver.sessions.set d.driver.nextHandle (.fresh page login app) } }.log
          (.simulationOpened d.driver.nextHandle destination))) ∨
    ∃ e fault, openSession destination login page d = (.error e,
      { d with driver := { d.driver.count (fun n => { n with opens := n.opens + 1 }) with
          faults := { d.driver.faults with openSession := fault } } }) := by
  unfold openSession
  simp only
  cases hfault : (d.driver.count _).faults.openSession with
  | some e => exact .inr ⟨e, none, rfl⟩
  | none =>
    simp only
    cases happ : (d.driver.count _).apps.get? destination with
    | none => exact .inr ⟨_, d.driver.faults.openSession, rfl⟩
    | some app => exact .inl ⟨app, happ, rfl⟩

/-- Closing a session that is open stops its worker, whether or not it is alive. -/
theorem closeSession_cases (handle : Handle) (d : Desk (SecureWorld κ)) :
    (∃ worker, d.driver.sessions.get? handle = some worker ∧
      closeSession handle d = (.ok (),
        { (if worker.alive then d else d.log (.workerPanicked handle)).log
            (.simulationClosed handle) with
          driver := { d.driver.count (fun n => { n with closes := n.closes + 1 }) with
            sessions := d.driver.sessions.erase handle } })) ∨
    d.driver.sessions.get? handle = none ∧
      closeSession handle d = (.error (.invalidSession handle),
        { d with driver := d.driver.count fun n => { n with closes := n.closes + 1 } }) := by
  unfold closeSession
  simp only [sessions_count]
  cases d.driver.sessions.get? handle with
  | none => exact .inr ⟨rfl, rfl⟩
  | some worker =>
    refine .inl ⟨worker, rfl, ?_⟩
    simp only
    cases worker.alive <;> rfl

/-! ## Mappings -/

/-- An attempt to map a buffer enters it at the address at which the counter stands, whatever is
there, or is refused. Either way it may use up some of the budget. -/
theorem map_cases (handle : Handle) (address : Address) (len : Nat) (access : Access)
    (w : SecureWorld κ) :
    (len < UInt32.size ∧ span len < UInt32.size ∧ ∃ budget,
      map handle address len access w = (.ok ⟨w.nextVa, len.toUInt32⟩,
        { w.count (fun n => { n with maps := n.maps + 1 }) with
          faults := { w.faults with mapBudget := budget }
          nextVa := w.nextVa + (span len).toUInt32
          mappings := w.mappings.set w.nextVa ⟨address, len, access⟩ })) ∨
    ∃ e budget, map handle address len access w = (.error e,
      { w.count (fun n => { n with maps := n.maps + 1 }) with
        faults := { w.faults with mapBudget := budget } }) := by
  unfold map
  simp only
  split
  · exact .inr ⟨_, w.faults.mapBudget, rfl⟩
  split
  · exact .inr ⟨_, w.faults.mapBudget, rfl⟩
  split
  next hfits => exact .inl ⟨hfits.1, hfits.2, _, rfl⟩
  · exact .inr ⟨_, _, rfl⟩

/-- A mapping is removed if it is of the buffer that is named. Otherwise nothing is done. -/
theorem unmap_cases (handle : Handle) (address : Address) (info : SecureRange)
    (w : SecureWorld κ) :
    (∃ mapping, w.mappings.get? info.secureVa = some mapping ∧ mapping.address = address ∧
      unmap handle address info w = (.ok (),
        { w.count (fun n => { n with unmaps := n.unmaps + 1 }) with
          mappings := w.mappings.erase info.secureVa })) ∨
    ∃ e, (∀ mapping, w.mappings.get? info.secureVa = some mapping → mapping.address ≠ address) ∧
      unmap handle address info w = (.error e,
        w.count fun n => { n with unmaps := n.unmaps + 1 }) := by
  unfold unmap
  simp only [show (w.count _).mappings = w.mappings from rfl]
  cases w.mappings.get? info.secureVa with
  | none =>
    refine .inr ⟨_, fun found hfound => ?_, rfl⟩
    cases hfound
  | some mapping =>
    simp only
    by_cases haddress : mapping.address = address
    · rw [if_pos haddress]
      exact .inl ⟨mapping, rfl, haddress, rfl⟩
    · rw [if_neg haddress]
      refine .inr ⟨_, fun found hfound => ?_, rfl⟩
      rw [← Option.some.inj hfound]
      exact haddress

/-! ## Waiting and notifying -/

variable {handle : Handle} {w : SecureWorld κ} {worker : Worker κ}

/-- A wait delivers the oldest completion. -/
theorem wait_of_cons (hired : w.sessions.get? handle = some worker) {completion : Completion}
    {rest : List Completion} (hqueued : worker.completions = completion :: rest) :
    wait handle w = (completion.answer,
      (w.count fun n => { n with waits := n.waits + 1 }).onWorker handle
        fun worker => { worker with completions := rest }) := by
  unfold wait
  simp only [sessions_count, hired, hqueued]
  cases completion <;> rfl

/-- A wait that finds no completion only counts. It ends by its limit if the worker is alive. -/
theorem wait_of_nil (hired : w.sessions.get? handle = some worker)
    (hqueued : worker.completions = []) :
    wait handle w = (.error (if worker.alive then .timeout else .invalidSession handle),
      w.count fun n => { n with waits := n.waits + 1 }) := by
  unfold wait
  simp only [sessions_count, hired, hqueued]

/-- A wait for which there is no session only counts. -/
theorem wait_of_unknown (h : w.sessions.get? handle = none) :
    wait handle w = (.error (.invalidSession handle),
      w.count fun n => { n with waits := n.waits + 1 }) := by
  unfold wait
  simp only [sessions_count, h]

/-- A wait delivers a completion or does nothing. -/
theorem wait_cases (handle : Handle) (w : SecureWorld κ) :
    (∃ worker completion rest, w.sessions.get? handle = some worker ∧
      worker.completions = completion :: rest ∧
      wait handle w = (completion.answer,
        (w.count fun n => { n with waits := n.waits + 1 }).onWorker handle
          fun worker => { worker with completions := rest })) ∨
    ∃ e, (∀ worker, w.sessions.get? handle = some worker → worker.completions = []) ∧
      wait handle w = (.error e, w.count fun n => { n with waits := n.waits + 1 }) := by
  cases hired : w.sessions.get? handle with
  | none => exact .inr ⟨_, nofun, wait_of_unknown hired⟩
  | some worker =>
    cases hqueued : worker.completions with
    | nil =>
      refine .inr ⟨_, fun found hfound => ?_, wait_of_nil hired hqueued⟩
      rw [← Option.some.inj hfound]
      exact hqueued
    | cons completion rest =>
      exact .inl ⟨worker, completion, rest, rfl, hqueued, wait_of_cons hired hqueued⟩

/-- A notification of a session whose worker is alive succeeds, unless notifications are to fail. -/
theorem ring_of_alive (hheard : w.faults.notify = false)
    (hworker : w.sessions.get? handle = some worker) (halive : worker.alive = true) :
    ring handle w = (.ok (), w.count fun n => { n with notifies := n.notifies + 1 }) := by
  simp [ring, knock, hheard, hworker, halive]

/-- A notification finds a worker that is alive, or is refused. It is counted either way. -/
theorem ring_cases (handle : Handle) (w : SecureWorld κ) :
    (∃ worker, w.sessions.get? handle = some worker ∧ worker.alive = true ∧
      w.faults.notify = false ∧
      ring handle w = (.ok (), w.count fun n => { n with notifies := n.notifies + 1 })) ∨
    ∃ e, ring handle w = (.error e, w.count fun n => { n with notifies := n.notifies + 1 }) := by
  by_cases hfails : w.faults.notify = true
  · exact .inr ⟨.device "notify failed", by simp [ring, knock, hfails]⟩
  have hheard : w.faults.notify = false := Bool.eq_false_iff.2 hfails
  cases hworker : w.sessions.get? handle with
  | none => exact .inr ⟨.invalidSession handle, by simp [ring, knock, hheard, hworker]⟩
  | some worker =>
    cases halive : worker.alive with
    | false =>
      exact .inr ⟨.invalidSession handle, by simp [ring, knock, hheard, hworker, halive]⟩
    | true => exact .inl ⟨worker, rfl, halive, hheard, ring_of_alive hheard hworker halive⟩

/-- A notification is counted, whatever comes of it. -/
@[simp] theorem ring_snd (handle : Handle) (w : SecureWorld κ) :
    (ring handle w).2 = w.count fun n => { n with notifies := n.notifies + 1 } := by
  obtain ⟨worker, -, -, -, he⟩ | ⟨e, he⟩ := ring_cases handle w <;> rw [he]

/-- A worker that finds a request published consumes the mark and serves it. -/
theorem attend_of_ready {s : Shared (SecureWorld κ)}
    (hired : s.driver.sessions.get? handle = some worker)
    (hready : (s.page worker.page).ready = true) :
    attend handle s = serve handle worker (s.onPage worker.page fun p => p.consumeReady.2) := by
  unfold attend
  simp only [hired, hready, if_true]

/-- A worker that finds no request published does nothing. -/
theorem attend_of_unready {s : Shared (SecureWorld κ)}
    (hired : s.driver.sessions.get? handle = some worker)
    (hunready : (s.page worker.page).ready = false) : attend handle s = .done () s := by
  unfold attend
  simp only [hired, hunready, Bool.false_eq_true, if_false]

end SecureWorld

/-! ## Writing through a mapped buffer -/

variable {mappings : Mappings} {slot : Slot} {data : Bytes}

namespace Mappings

/-- The address names a mapped buffer that takes so many bytes: it may be written, and is at least
as long. -/
def Takes (mappings : Mappings) (secureVa : UInt32) (count : Nat) : Prop :=
  ∃ mapping, mappings.get? secureVa = some mapping ∧
    mapping.access.contains .output = true ∧ count ≤ mapping.len

/-- A write succeeds exactly at a mapped buffer that takes the bytes, and overlays it with them. -/
theorem write_cases (mappings : Mappings) (memory : Memory) (secureVa : UInt32) (data : Bytes) :
    (¬ mappings.Takes secureVa data.length ∧ mappings.write memory secureVa data = none) ∨
    ∃ mapping, mappings.get? secureVa = some mapping ∧
      mapping.access.contains .output = true ∧ data.length ≤ mapping.len ∧
      mappings.write memory secureVa data = some (memory.write mapping.address data) := by
  unfold write
  cases hget : mappings.get? secureVa with
  | none =>
    refine .inl ⟨?_, rfl⟩
    rintro ⟨mapping, hfound, -⟩
    simp [hget] at hfound
  | some mapping =>
    by_cases htakes : mapping.access.contains .output = true ∧ data.length ≤ mapping.len
    · exact .inr ⟨mapping, rfl, htakes.1, htakes.2, by simp [htakes]⟩
    · refine .inl ⟨?_, by simpa using htakes⟩
      rintro ⟨other, hother, hgranted, hroom⟩
      obtain rfl : mapping = other := by simpa [hget] using hother
      exact htakes ⟨hgranted, hroom⟩

end Mappings

namespace Chamber

/-- What a write to the buffer of a slot comes to: its result, and the memory it leaves. -/
inductive Writes (mappings : Mappings) (c : Chamber) (slot : Slot) (data : Bytes) :
    Except Status Unit → Memory → Prop
  /-- The slot describes a buffer that is too short. -/
  | short (overruns : (c.page.param slot).mappedLen.toNat < data.length) :
    Writes mappings c slot data (.error FailureKind.shortBuffer.code) c.memory
  /-- There is nothing to write, so no buffer is looked for. -/
  | nothing (empty : data = []) : Writes mappings c slot data (.ok ()) c.memory
  | written (mapping : Mapping) (filled : data ≠ [])
    (fits : data.length ≤ (c.page.param slot).mappedLen.toNat)
    (found : mappings.get? (c.page.param slot).secureVa = some mapping)
    (granted : mapping.access.contains .output = true) (room : data.length ≤ mapping.len) :
    Writes mappings c slot data (.ok ()) (c.memory.write mapping.address data)
  /-- No buffer takes the bytes at the address that the slot names. -/
  | denied (filled : data ≠ []) (fits : data.length ≤ (c.page.param slot).mappedLen.toNat)
    (refused : ¬ mappings.Takes (c.page.param slot).secureVa data.length) :
    Writes mappings c slot data (.error FailureKind.accessDenied.code) c.memory

/-- Each write comes to one of the cases of `Writes`. -/
theorem writes (mappings : Mappings) (c : Chamber) (slot : Slot) (data : Bytes) :
    Writes mappings c slot data (c.write mappings slot data).1
      (c.write mappings slot data).2.memory := by
  unfold write
  simp only
  by_cases hover : data.length > (c.page.param slot).mappedLen.toNat
  · simp only [if_pos hover]
    exact .short hover
  have hfits : data.length ≤ (c.page.param slot).mappedLen.toNat := Nat.not_lt.1 hover
  by_cases hempty : data = []
  · simp only [hempty, List.isEmpty_nil, if_true]
    simp only [List.length_nil, gt_iff_lt, Nat.not_lt_zero, if_false]
    exact .nothing rfl
  have hfilled : data.isEmpty = false := by simpa using hempty
  simp only [if_neg hover, hfilled, Bool.false_eq_true, if_false]
  -- what remains is up to the buffer that is mapped at the address of the slot
  rcases mappings.write_cases c.memory (c.page.param slot).secureVa data with
    ⟨hrefused, hwrite⟩ | ⟨mapping, hfound, hgranted, hroom, hwrite⟩
  · simp only [reportSize, hwrite]
    exact .denied hempty hfits hrefused
  · simp only [reportSize, hwrite]
    exact .written mapping hempty hfits hfound hgranted hroom

end Chamber

end TeeClient
