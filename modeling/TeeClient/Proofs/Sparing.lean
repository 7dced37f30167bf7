import TeeClient.Proofs.Views

/-!
# Pages that cancellations leave alone

While a driver maps and unmaps it has no page in reach. It may ask for cancellations, though, and a
session that is notified of one may write to pages. `Driver.SparesMapping D P` and
`Driver.SparesUnmapping D P` say that the pages that satisfy `P` are left as they are meanwhile, but
for the flag that the client raises.

That is so for a driver that asks for no cancellation while it maps and unmaps
(`Driver.SelfContained`), whatever `P` is, and for a driver whose sessions leave such pages alone
when they are notified (`Driver.Respects`). The secure world leaves pages alone in which no request
is published, and so does a recorder around it.

Main statements:

* `Driver.MapsAtOnce.spares` and `Driver.Respects.sparesMapping`: drivers that spare pages;
* `SecureWorld.respects_driver` and `Driver.Respects.recorder`: a notification of a cancellation
  leaves a page alone in which no request is published;
* `SecureWorld.recorder_spares`: the secure world behind a recorder spares such pages.
-/

namespace TeeClient

variable {σ κ α : Type}

/-! ## Pages with their flags aside -/

namespace Shared

variable {s s' s'' : Shared σ} {id : PageId}

/-- The pages, their cancellation flags aside. -/
def unflagged (s : Shared σ) (id : PageId) : Option Page := (s.pages.get? id).map Page.unflagged

/-- A change to another page, or one to the flag, is not seen. -/
theorem unflagged_onPage {other : PageId} {f : Page → Page}
    (hf : other = id → ∀ p, (f p).unflagged = p.unflagged) :
    (s.onPage other f).unflagged id = s.unflagged id := by
  show ((s.pages.modify other f).get? id).map _ = (s.pages.get? id).map _
  rw [Arena.get?_modify]
  split
  next he =>
    rw [Option.map_map]
    exact congrArg (Option.map · _) (funext fun p => hf he.symm p)
  · rfl

/-- The page is left as it is, its flag aside, if it is one of these. -/
def Spares (P : Page → Prop) (id : PageId) (s s' : Shared σ) : Prop :=
  ∀ p, s.unflagged id = some p → P p → s'.unflagged id = some p

namespace Spares

variable {P : Page → Prop}

/-- A page that is not written to is left as it is. -/
theorem of_eq (h : s'.unflagged id = s.unflagged id) : s.Spares P id s' :=
  fun _ hp _ => h.trans hp

/-- A page that is left as it is may be left as it is again. -/
theorem trans (h : s.Spares P id s') (h' : s'.Spares P id s'') : s.Spares P id s'' :=
  fun p hp hP => h' p (h p hp hP) hP

end Spares

end Shared

/-! ## Drivers that spare pages -/

namespace Driver

/-- Cancellations that the driver asks for while it maps leave these pages alone, but for their
flags. -/
def SparesMapping (D : Driver σ) (P : Page → Prop) : Prop :=
  ∀ handle address len access (w : World σ) id,
    w.toShared.Spares P id (w.onDesk D (D.map handle address len access)).2.toShared

/-- Cancellations that the driver asks for while it unmaps leave these pages alone, but for their
flags. -/
def SparesUnmapping (D : Driver σ) (P : Page → Prop) : Prop :=
  ∀ handle address info (w : World σ) id,
    w.toShared.Spares P id (w.onDesk D (D.unmap handle address info)).2.toShared

/-- The driver maps in one go: it asks for no cancellation meanwhile. -/
def MapsAtOnce (D : Driver σ) : Prop :=
  ∀ handle address len access d, ∃ result d', D.map handle address len access d = .done result d'

/-- The driver maps and unmaps in one go: it asks for no cancellation meanwhile. -/
structure SelfContained (D : Driver σ) : Prop where
  map : ∀ handle address len access d, ∃ result d',
    D.map handle address len access d = .done result d'
  unmap : ∀ handle address info d, ∃ result d', D.unmap handle address info d = .done result d'

end Driver

/-- Where a primitive is done in one go, only the driver's state and the journal may change. -/
theorem World.onDesk_of_done {D : Driver σ} {act : Desk σ → Reply (Desk σ) α} {w : World σ}
    {result : α} {d' : Desk σ} (h : act w.desk = .done result d') :
    w.onDesk D act = (result, w.withDesk d') := by
  unfold onDesk
  rw [h]
  rfl

namespace Driver.SelfContained

variable {D : Driver σ} (hD : D.SelfContained) (w : World σ) (handle : Handle) (address : Address)
include hD

/-- Pages and lifecycles are not touched while a buffer is mapped. -/
theorem onDesk_map (len : Nat) (access : Access) :
    ∃ d', (w.onDesk D (D.map handle address len access)).2 = w.withDesk d' := by
  obtain ⟨result, d', hmap⟩ := hD.map handle address len access w.desk
  exact ⟨d', by rw [World.onDesk_of_done hmap]⟩

/-- Pages and lifecycles are not touched while a buffer is unmapped. -/
theorem onDesk_unmap (info : SecureRange) :
    ∃ d', (w.onDesk D (D.unmap handle address info)).2 = w.withDesk d' := by
  obtain ⟨result, d', hunmap⟩ := hD.unmap handle address info w.desk
  exact ⟨d', by rw [World.onDesk_of_done hunmap]⟩

end Driver.SelfContained

/-- A driver that maps in one go spares every page meanwhile. -/
theorem Driver.MapsAtOnce.spares {D : Driver σ} (hD : D.MapsAtOnce) (P : Page → Prop) :
    D.SparesMapping P := by
  intro handle address len access w id
  obtain ⟨result, d', hmap⟩ := hD handle address len access w.desk
  rw [World.onDesk_of_done hmap]
  exact .of_eq rfl

/-- A driver that unmaps in one go spares every page meanwhile. -/
theorem Driver.SelfContained.spares {D : Driver σ} (hD : D.SelfContained) (P : Page → Prop) :
    D.SparesUnmapping P := by
  intro handle address info w id
  obtain ⟨d', hunmap⟩ := hD.onDesk_unmap w handle address info
  rw [hunmap]
  exact .of_eq rfl

/-! ## Sessions that are notified of a cancellation -/

/-- A session that is notified of a cancellation leaves these pages alone, as long as what it asks
for in turn does. -/
def Driver.Respects (D : Driver σ) (P : Page → Prop) : Prop :=
  ∀ handle id s, (D.notify .cancellation handle s).Meets (Shared.Spares P id)
    fun _ s' => s.Spares P id s'

namespace Driver.Respects

variable {D : Driver σ} {P : Page → Prop} (h : D.Respects P)
include h

/-- Requests to cancel leave the pages alone, but for their flags. -/
theorem tolerates (id : PageId) :
    World.Tolerates D fun w after => w.toShared.Spares P id after.toShared :=
  World.tolerates_of_shared (fun _ => .of_eq rfl) (fun _ _ _ => .trans) (fun _ _ _ => .of_eq rfl)
    (fun _ _ => .of_eq (Shared.unflagged_onPage fun _ _ => rfl)) fun handle s => h handle id s

/-- A driver whose sessions leave these pages alone when they are notified spares them while it
maps. -/
theorem sparesMapping : D.SparesMapping P := fun _ _ _ _ _ id =>
  (h.tolerates id).onDesk (Reply.stretches_true _ _) fun _ _ _ => .of_eq rfl

/-- A driver whose sessions leave these pages alone when they are notified spares them while it
unmaps. -/
theorem sparesUnmapping : D.SparesUnmapping P := fun _ _ _ _ id =>
  (h.tolerates id).onDesk (Reply.stretches_true _ _) fun _ _ _ => .of_eq rfl

/-- What the sessions of a driver leave alone, they leave alone behind a recorder. -/
theorem recorder : (Recorder.driver D).Respects P := by
  intro handle id s
  have hinner : ((D.notify .cancellation handle (Recorder.innerShared s)).within
      Recorder.innerShared Recorder.withInnerShared s).Meets (Shared.Spares P id) fun _ s' =>
        s.Spares P id s' := by
    refine .imp ((h handle id (Recorder.innerShared s)).within (P := fun _ => True)
      (fun _ _ _ hkept => ?_) (fun _ _ _ _ _ => trivial) trivial) ?_
    · exact hkept
    · rintro result _ ⟨around, inner, -, hspared, rfl⟩
      exact hspared
  -- the note changes no page
  exact .bind (.imp hinner fun _ _ hspared => hspared)

end Driver.Respects

/-! ## The secure world -/

/-- A program of an application writes to no page but that of its session. -/
theorem Program.run_spares {P : Page → Prop} {page id : PageId} (hne : page ≠ id) (login : Login)
    (program : Program κ) (s : Shared (SecureWorld κ)) :
    (program.run page login s).Stretches (Shared.Spares P id) s := by
  induction program generalizing s with
  | finish | panic => exact .of_eq rfl
  | ask query next ih =>
    unfold Program.run
    split
    · exact .of_eq rfl
    next answer chamber _ =>
      have hpage : s.Spares P id
          { s.onPage page (fun _ => chamber.page) with memory := chamber.memory } :=
        .of_eq (Shared.unflagged_onPage (s := s) fun he => absurd he hne)
      exact .earlier (fun _ _ _ => .trans) hpage (ih answer _)
  | cancel token next ih => exact ⟨.of_eq rfl, fun outcome after => ih outcome after⟩
  | report event next ih =>
    have hnoted : s.Spares P id (s.note event) := .of_eq rfl
    exact .earlier (fun _ _ _ => .trans) hnoted (ih (s.note event))

namespace SecureWorld

variable {page id : PageId} {P : Page → Prop}

/-- What ends a run writes to no page but that of the session. -/
theorem spares_conclude (hne : page ≠ id) (handle : Handle) (origin status : UInt32) (state : κ)
    (s : Shared (SecureWorld κ)) : s.Spares P id (conclude handle page origin status state s) :=
  .of_eq (Shared.unflagged_onPage fun he => absurd he hne)

/-- A worker that serves a request writes to no page but its own. -/
theorem serve_spares (handle : Handle) {worker : Worker κ} (hne : worker.page ≠ id)
    (s : Shared (SecureWorld κ)) : (serve handle worker s).Stretches (Shared.Spares P id) s := by
  unfold serve
  simp only
  split
  · exact spares_conclude hne handle _ _ _ (s.log _)
  next instruction _ =>
    have hentered : s.Spares P id
        (enter ⟨handle, instruction, worker.page, s.page worker.page⟩ s) := .of_eq rfl
    refine .bind (fun _ _ _ => .trans) (.earlier (fun _ _ _ => .trans) hentered
      (Program.run_spares hne worker.login _ _)) ?_
    rintro (_ | ended) s'
    · exact .of_eq rfl
    · exact spares_conclude hne handle _ _ _ s'

/-- A worker that looks at its page leaves pages alone in which no request is published: it writes
to its own page only where it finds one there. -/
theorem attend_spares (handle : Handle) (id : PageId) (s : Shared (SecureWorld κ)) :
    (attend handle s).Meets (Shared.Spares (fun p => p.ready = false) id) fun _ s' =>
      s.Spares (fun p => p.ready = false) id s' := by
  unfold attend
  split
  · exact .of_eq rfl
  next worker _ =>
    split
    next hready =>
      by_cases hpage : worker.page = id
      · -- a request is published in the page, so that nothing is said about it
        refine .imp (Reply.meets_true _) fun _ _ _ p hp hunready => ?_
        obtain ⟨found, hfound, rfl⟩ := Option.map_eq_some_iff.1 hp
        rw [hpage, Shared.page_of_get? hfound] at hready
        exact absurd hunready (Bool.not_eq_false _ ▸ hready)
      · have hconsumed : s.Spares (fun p => p.ready = false) id
            (s.onPage worker.page fun p => p.consumeReady.2) :=
          .of_eq (Shared.unflagged_onPage fun he => absurd he hpage)
        exact (Reply.Stretches.earlier (fun _ _ _ => .trans) hconsumed
          (serve_spares handle hpage _)).meets fun _ _ _ => .trans
    · exact .of_eq rfl

/-- The sessions of the secure world leave pages alone in which no request is published. -/
theorem respects_driver :
    (SecureWorld.driver : Driver (SecureWorld κ)).Respects fun p => p.ready = false := by
  intro handle id s
  show (SecureWorld.notify handle s).Meets _ _
  unfold SecureWorld.notify
  obtain ⟨worker, -, -, -, he⟩ | ⟨e, he⟩ := ring_cases handle s.driver
  · rw [he]
    exact .bind (.imp (attend_spares handle id { s with driver := s.driver.count _ })
      fun _ _ hspared => hspared)
  · rw [he]
    exact .of_eq rfl

/-- A recorder around the secure world asks for cancellations while it maps and unmaps, if hooks are
armed. It spares the pages in which no request is published. -/
theorem recorder_spares :
    (Recorder.driver (SecureWorld.driver : Driver (SecureWorld κ))).SparesMapping
      (fun p => p.ready = false) ∧
    (Recorder.driver (SecureWorld.driver : Driver (SecureWorld κ))).SparesUnmapping
      fun p => p.ready = false :=
  ⟨respects_driver.recorder.sparesMapping, respects_driver.recorder.sparesUnmapping⟩

end SecureWorld

end TeeClient
