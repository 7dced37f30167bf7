import TeeClient.Proofs.Interruption

/-!
# What a request to cancel is made of

A request that is due finishes an operation, raises the flag in the page of a session and notifies
the session; what the secure world asks for meanwhile is answered in the same way. Each such request
leaves one operation less started, so the rounds that `World.honour` provides for are enough.

`World.Tolerates D R` says of a relation that it allows for each of these steps. Then it allows for
a request as a whole, and for all requests that are made while a primitive runs.

Main statements:

* `World.honour_eq`: all further requests are answered as the first one is;
* `World.Tolerates.honour`: what a request does, it does in these steps;
* `World.Tolerates.onDesk` and `World.Tolerates.onShared`: what a primitive does, requests included;
* `World.tolerates_of_shared`: relations that are about what the secure world may touch.
-/

namespace TeeClient

/-- The slot whose marker the record says not to tell whether a mapping is held. -/
def Record.mismatch? : Record → Option Nat
  | markerMismatch slot => some slot
  | _ => none

/-- The slot whose marker the entry says not to tell whether a mapping is held. -/
def Entry.mismatch? : Entry → Option Nat
  | log record => record.mismatch?
  | event _ => none

/-- A primitive on the desk, as one that has the rest in reach as well. -/
def Shared.atDesk {σ α : Type} (act : Desk σ → Reply (Desk σ) α) (s : Shared σ) :
    Reply (Shared σ) α :=
  (act s.desk).within Shared.desk Shared.withDesk s

/-- A request to cancel starts nothing. -/
theorem Lifecycle.progress_cancel (l : Lifecycle) : l.cancel.2.progress ≠ .started := by
  unfold cancel
  split
  next h => exact h ▸ nofun
  next h => exact h ▸ nofun
  · exact nofun

namespace World

variable {σ : Type} {D : Driver σ}

/-! ## The steps of a request -/

/-- The world in which a request to cancel has reached a lifecycle. -/
def cancelled (id : LifecycleId) (w : World σ) : World σ := w.onLifecycle id fun l => l.cancel.2

/-- A request reaches the lifecycle that it is about. -/
theorem onLifecycle_cancel (id : LifecycleId) (w : World σ) :
    (w.onLifecycle id fun _ => ((w.lifecycles.get? id).getD .new).cancel.2) = w.cancelled id := by
  have hsame : (w.lifecycles.modify id fun _ => ((w.lifecycles.get? id).getD .new).cancel.2)
      = w.lifecycles.modify id fun l => l.cancel.2 := by
    refine Arena.ext rfl ?_
    show w.lifecycles.table.modify id _ = w.lifecycles.table.modify id _
    unfold Table.modify
    cases hl : w.lifecycles.table.get? id with
    | none => rfl
    | some l =>
      simp only
      rw [show w.lifecycles.get? id = some l from hl]
      rfl
  exact congrArg (fun lifecycles => { w with lifecycles }) hsame

/-- The relation allows for each step of a request to cancel. -/
structure Tolerates (D : Driver σ) (R : World σ → World σ → Prop) : Prop where
  refl : ∀ w, R w w
  trans : ∀ a b c, R a b → R b c → R a c
  /-- Markers are no matter of requests to cancel. -/
  logged : ∀ w r, r.mismatch? = .none → R w (w.log r)
  cancelled : ∀ w id, R w (w.cancelled id)
  flagged : ∀ w id channel, w.channels.get? id = some channel → channel.active = true →
    R w (w.onPage channel.page (·.setCancelled true))
  /-- A session is notified, and what it asks for is answered as the relation allows. -/
  notified : ∀ answers, (∀ token w, R w (answers token w).2) → ∀ w id channel,
    w.channels.get? id = some channel → channel.active = true →
    R w (w.settleShared answers (D.notify .cancellation channel.handle)).2

/-- A signal to a session that is active: the flag, the notification and log records. -/
theorem signal_of_active (D : Driver σ) (answers : Answers σ) {w : World σ} {id : ChannelId}
    {channel : Channel} (hget : w.channels.get? id = some channel) (ha : channel.active = true) :
    let notified := (w.onPage channel.page (·.setCancelled true)).settleShared answers
      (D.notify .cancellation channel.handle)
    ∃ journal, w.signal D answers id = { notified.2 with journal } := by
  unfold signal
  simp only [hget, ha, if_true]
  -- the outcome only decides what is logged
  rcases (w.onPage channel.page (·.setCancelled true)).settleShared answers
    (D.notify .cancellation channel.handle) with ⟨e | ⟨⟩, w'⟩
  · exact ⟨_, rfl⟩
  · exact ⟨_, rfl⟩

/-- A signal to a session that is not active is only entered in the journal. -/
theorem signal_of_inactive (D : Driver σ) (answers : Answers σ) {w : World σ} {id : ChannelId}
    (h : ∀ channel, w.channels.get? id = some channel → channel.active = false) :
    ∃ journal, w.signal D answers id = { w with journal } := by
  unfold signal
  cases hget : w.channels.get? id with
  | none => exact ⟨_, rfl⟩
  | some channel =>
    simp only [h channel hget, Bool.false_eq_true, if_false]
    exact ⟨_, rfl⟩

/-- A session is active, or it is not known or not active. -/
theorem exists_active_or (id : ChannelId) (w : World σ) :
    (∃ channel, w.channels.get? id = some channel ∧ channel.active = true) ∨
      ∀ channel, w.channels.get? id = some channel → channel.active = false := by
  by_cases hactive : ∃ channel, w.channels.get? id = some channel ∧ channel.active = true
  · exact .inl hactive
  · exact .inr fun channel hget => Bool.eq_false_iff.2 fun ha => hactive ⟨channel, hget, ha⟩

/-- A request to cancel an operation that is not started is only entered in the journal. -/
theorem cancelWith_of_not_started (D : Driver σ) (answers : Answers σ) {w : World σ}
    {id : LifecycleId} (h : w.progress id ≠ .started) :
    ∃ journal, w.cancelWith D answers id = { w with journal } := by
  -- the lifecycle is replaced by itself
  have hsame : w.onLifecycle id (fun _ => (w.lifecycles.get? id).getD .new) = w := by
    unfold onLifecycle
    rw [Arena.modify_eq_self fun l hl => by rw [hl, Option.getD_some]]
  unfold progress at h
  unfold cancelWith Lifecycle.cancel
  cases hp : ((w.lifecycles.get? id).getD .new).progress with
  | started => exact absurd hp h
  | notStarted | finished =>
    simp only [hsame]
    exact ⟨_, rfl⟩

/-- A request to cancel an operation that is not started does not depend on how further requests are
answered. -/
theorem cancelWith_congr_of_not_started (D : Driver σ) (answers other : Answers σ) {w : World σ}
    {id : LifecycleId} (h : w.progress id ≠ .started) :
    w.cancelWith D other id = w.cancelWith D answers id := by
  unfold progress at h
  unfold cancelWith Lifecycle.cancel
  cases hp : ((w.lifecycles.get? id).getD .new).progress with
  | started => exact absurd hp h
  | notStarted | finished => rfl

/-- An operation that is started has a lifecycle. -/
theorem get?_of_started {w : World σ} {id : LifecycleId} (h : w.progress id = .started) :
    ∃ l, w.lifecycles.get? id = some l ∧ l.progress = .started := by
  unfold progress at h
  cases hl : w.lifecycles.get? id with
  | none =>
    rw [hl] at h
    cases h
  | some l =>
    rw [hl] at h
    exact ⟨l, rfl, h⟩

/-- A request to cancel an operation that is started finishes it, and signals the session that
carries it. -/
theorem cancelWith_of_started (D : Driver σ) (answers : Answers σ) {w : World σ} {id : LifecycleId}
    {l : Lifecycle} (hl : w.lifecycles.get? id = some l) (hp : l.progress = .started) :
    w.cancelWith D answers id = match l.target with
      | some session => (w.cancelled id).signal D answers session
      | none => (w.cancelled id).log .sessionGone := by
  have hcancel : ((w.lifecycles.get? id).getD .new).cancel.1 = .due l.target := by
    rw [hl, Option.getD_some]
    unfold Lifecycle.cancel
    rw [hp]
  unfold cancelWith
  simp only [hcancel, onLifecycle_cancel]
  cases l.target <;> rfl

namespace Tolerates

variable {R : World σ → World σ → Prop} (h : Tolerates D R) {answers : Answers σ}
include h

/-- A relation that tolerates requests to cancel allows for a signal. -/
theorem signal (hanswers : ∀ token w, R w (answers token w).2) (id : ChannelId) (w : World σ) :
    R w (w.signal D answers id) := by
  unfold World.signal
  split
  · exact h.logged w _ rfl
  next channel hget =>
    split
    next ha =>
      have hnotified := h.trans _ _ _ (h.flagged w id channel hget ha)
        (h.notified answers hanswers (w.onPage channel.page (·.setCancelled true)) id channel hget
          ha)
      simp only
      -- the outcome only decides what is logged
      generalize (w.onPage channel.page (·.setCancelled true)).settleShared answers
        (D.notify .cancellation channel.handle) = outcome at hnotified ⊢
      obtain ⟨e | ⟨⟩, after⟩ := outcome
      · exact h.trans _ _ _ (h.trans _ _ _ hnotified (h.logged after _ rfl)) (h.logged _ _ rfl)
      · exact h.trans _ _ _ hnotified (h.logged after _ rfl)
    · exact h.logged w _ rfl

/-- A relation that tolerates requests to cancel allows for one about a lifecycle. -/
theorem cancelWith (hanswers : ∀ token w, R w (answers token w).2) (id : LifecycleId)
    (w : World σ) : R w (w.cancelWith D answers id) := by
  have hcancelled := h.cancelled w id
  unfold World.cancelWith
  simp only [onLifecycle_cancel]
  split
  · exact h.trans _ _ _ hcancelled (h.logged _ _ rfl)
  · exact h.trans _ _ _ hcancelled (h.logged _ _ rfl)
  · exact h.trans _ _ _ hcancelled (h.signal hanswers _ _)
  · exact h.trans _ _ _ hcancelled (h.logged _ _ rfl)

/-- A relation that tolerates requests to cancel allows for one by the name of a token. -/
theorem honourWith (hanswers : ∀ token w, R w (answers token w).2) (token : String) (w : World σ) :
    R w (honourWith D answers token w).2 := by
  unfold World.honourWith
  cases w.tokens.get? token with
  | none => exact h.refl w
  | some id => exact h.cancelWith hanswers id w

/-- A relation that tolerates requests to cancel allows for rounds of them. -/
theorem honourWithin (n : Nat) (token : String) (w : World σ) :
    R w (honourWithin D n token w).2 := by
  induction n generalizing token w with
  | zero => exact h.honourWith (fun _ w => h.refl w) token w
  | succ n ih => exact h.honourWith ih token w

/-- A relation that tolerates requests to cancel allows for one by the name of a token, and what is
asked for in turn. -/
theorem honour (token : String) (w : World σ) : R w (w.honour D token).2 :=
  h.honourWithin w.started token w

/-- A relation that tolerates requests to cancel allows for one about a lifecycle, and what is asked
for in turn. -/
theorem cancelCall (id : LifecycleId) (w : World σ) : R w (w.cancelCall D id) :=
  h.cancelWith h.honour id w

/-- A relation that tolerates requests to cancel allows for a primitive on the desk, if it allows
for what the primitive does by itself. -/
theorem onDesk {α : Type} {S : Desk σ → Desk σ → Prop} {act : Desk σ → Reply (Desk σ) α}
    {w : World σ} (hact : (act w.desk).Stretches S w.desk)
    (hS : ∀ (w : World σ) desk, S w.desk desk → R w (w.withDesk desk)) :
    R w (w.onDesk D act).2 :=
  settle_relates h.trans hS h.honour hact

/-- A relation that tolerates requests to cancel allows for a primitive during which the secure
world runs, if it allows for what the primitive does by itself. -/
theorem onShared {α : Type} {S : Shared σ → Shared σ → Prop}
    {act : Shared σ → Reply (Shared σ) α} {w : World σ}
    (hact : (act w.toShared).Stretches S w.toShared)
    (hS : ∀ (w : World σ) shared, S w.toShared shared → R w (w.withShared shared)) :
    R w (w.onShared D act).2 :=
  settle_relates h.trans hS h.honour hact

end Tolerates

/-- A relation that is not about what drivers touch allows for the steps of a request if it allows
for what becomes of lifecycles. -/
theorem tolerates_of_withShared {R : World σ → World σ → Prop} (refl : ∀ w, R w w)
    (trans : ∀ a b c, R a b → R b c → R a c) (hshared : ∀ w shared, R w (w.withShared shared))
    (hcancelled : ∀ w id, R w (w.cancelled id)) : Tolerates D R where
  refl := refl
  trans := trans
  logged w r _ := hshared w (w.toShared.log r)
  cancelled := hcancelled
  flagged w _ channel _ _ := hshared w (w.toShared.onPage channel.page (·.setCancelled true))
  notified _ hanswers _ _ _ _ _ :=
    settle_relates trans (fun w shared _ => hshared w shared) hanswers (Reply.stretches_true _ _)

/-- A request to cancel leaves the sessions as they are. -/
theorem tolerates_channels (D : Driver σ) :
    Tolerates D fun w after => after.channels = w.channels :=
  tolerates_of_withShared (fun _ => rfl) (fun _ _ _ hab hbc => hbc.trans hab) (fun _ _ => rfl)
    fun _ _ => rfl

/-- A request by the name of a token leaves the sessions as they are. -/
@[simp] theorem channels_honour (D : Driver σ) (token : String) (w : World σ) :
    (w.honour D token).2.channels = w.channels :=
  (tolerates_channels D).honour token w

/-! ## Enough rounds -/

/-- A request that is due leaves one operation less started; no request starts one. -/
theorem started_cancelled (id : LifecycleId) (w : World σ) :
    (w.cancelled id).started ≤ w.started ∧
      (w.progress id = .started → (w.cancelled id).started < w.started) := by
  cases hl : w.lifecycles.get? id with
  | none =>
    have hsame : w.cancelled id = w := by
      unfold cancelled onLifecycle
      rw [Arena.modify_eq_self (by simp [hl])]
    refine ⟨Nat.le_of_eq (congrArg started hsame), fun hp => ?_⟩
    obtain ⟨l, hget, -⟩ := get?_of_started hp
    rw [hl] at hget
    cases hget
  | some l =>
    have hcount := Arena.countP_modify (fun l : Lifecycle => l.progress == .started) hl
      fun l => l.cancel.2
    have hcancelled : (l.cancel.2.progress == .started) = false :=
      beq_eq_false_iff_ne.2 l.progress_cancel
    simp only [hcancelled, Bool.toNat_false, Nat.add_zero] at hcount
    refine ⟨Nat.le.intro hcount, fun hp => Nat.lt_of_lt_of_eq (Nat.lt_succ_self _) ?_⟩
    have hstarted : (l.progress == .started) = true := by
      unfold progress at hp
      rw [hl] at hp
      exact beq_iff_eq.2 hp
    rw [hstarted] at hcount
    exact hcount

/-- No request to cancel leaves more operations started. -/
theorem tolerates_started (D : Driver σ) :
    Tolerates D fun w after => after.started ≤ w.started where
  refl _ := Nat.le_refl _
  trans _ _ _ hab hbc := Nat.le_trans hbc hab
  logged _ _ _ := Nat.le_refl _
  cancelled w id := (w.started_cancelled id).1
  flagged _ _ _ _ _ := Nat.le_refl _
  notified answers hanswers w _ _ _ _ := by
    unfold settleShared
    refine settle_preserves (P := fun after => after.started ≤ w.started) ?_
      (fun token w' h => Nat.le_trans (hanswers token w') h) _ (Nat.le_refl _)
    exact fun _ _ h => h

section Rounds

variable {answers other : Answers σ} {n : Nat}
  (hkeep : ∀ token w, (answers token w).2.started ≤ w.started)
  (hsame : ∀ token w, w.started ≤ n → other token w = answers token w)
include hkeep hsame

/-- Where so many operations are started, a signal only depends on the answers there. -/
theorem signal_congr (id : ChannelId) {w : World σ} (hw : w.started ≤ n) :
    w.signal D other id = w.signal D answers id := by
  have hsettle : ∀ (w : World σ) (act : Shared σ → Reply (Shared σ) (Except DriverFault Unit)),
      w.started ≤ n → w.settleShared other act = w.settleShared answers act := by
    intro w act hw
    unfold settleShared
    refine settle_congr (P := fun w => w.started ≤ n) ?_
      (fun token w h => Nat.le_trans (hkeep token w) h) hsame _ hw
    exact fun _ _ h => h
  unfold signal
  split
  · rfl
  · split
    · simp only
      rw [hsettle _ _ (show (w.onPage _ _).started ≤ n from hw)]
    · rfl

/-- Where one more is started, a request only depends on the answers there. -/
theorem honourWith_congr (token : String) {w : World σ} (hw : w.started ≤ n + 1) :
    honourWith D other token w = honourWith D answers token w := by
  have hcancel : ∀ id, w.cancelWith D other id = w.cancelWith D answers id := by
    intro id
    by_cases hp : w.progress id = .started
    · have hless := (w.started_cancelled id).2 hp
      obtain ⟨l, hl, hp⟩ := get?_of_started hp
      rw [cancelWith_of_started D other hl hp, cancelWith_of_started D answers hl hp]
      cases l.target with
      | none => rfl
      | some session => exact signal_congr hkeep hsame session (by omega)
    · exact cancelWith_congr_of_not_started D answers other hp
  unfold honourWith
  simp only [hcancel]

end Rounds

/-- Where no operation is started no further request is made. -/
theorem honourWith_of_none (D : Driver σ) (answers other : Answers σ) (token : String) {w : World σ}
    (hw : w.started = 0) : honourWith D other token w = honourWith D answers token w := by
  have hcancel : ∀ id, w.cancelWith D other id = w.cancelWith D answers id := fun id =>
    cancelWith_congr_of_not_started D answers other fun hp => by
      have := (w.started_cancelled id).2 hp
      omega
  unfold honourWith
  simp only [hcancel]

/-- More rounds than operations are started make no difference. -/
theorem honourWithin_add (D : Driver σ) (n k : Nat) (token : String) {w : World σ}
    (hw : w.started ≤ n) : honourWithin D (n + k) token w = honourWithin D n token w := by
  induction n generalizing token w with
  | zero =>
    have hnone : w.started = 0 := Nat.le_zero.1 hw
    cases k with
    | zero => rfl
    | succ k => rw [Nat.zero_add]; exact honourWith_of_none D _ _ token hnone
  | succ n ih =>
    rw [Nat.succ_add]
    exact honourWith_congr ((tolerates_started D).honourWithin n) (fun token w => ih token) token hw

/-- All further requests are answered as the first one is. -/
theorem honour_eq (D : Driver σ) : honour D = honourWith D (honour D) := by
  funext token w
  show honourWithin D w.started token w = _
  cases hn : w.started with
  | zero => exact honourWith_of_none D _ _ token hn
  | succ n =>
    -- below the first round there are as many rounds as are needed
    have hrounds : ∀ token (w : World σ), w.started ≤ n →
        honour D token w = honourWithin D n token w := by
      intro token w hw
      obtain ⟨k, rfl⟩ := Nat.exists_eq_add_of_le hw
      exact (honourWithin_add D _ k token (Nat.le_refl _)).symm
    exact (honourWith_congr ((tolerates_started D).honourWithin n) hrounds token
      (Nat.le_of_eq hn)).symm

/-- A request by the name of a token is one about a lifecycle, or changes nothing. -/
theorem honour_eq_cancelCall (D : Driver σ) (token : String) (w : World σ) :
    (w.honour D token).2 = match w.tokens.get? token with
      | none => w
      | some id => w.cancelCall D id := by
  rw [honour_eq]
  unfold honourWith
  cases w.tokens.get? token <;> rfl

/-! ## Primitives -/

section Primitives

variable {α : Type} (D : Driver σ)

/-- A primitive on the desk does not look at the rest of what a primitive may touch. -/
theorem onDesk_eq_onShared (act : Desk σ → Reply (Desk σ) α) (w : World σ) :
    w.onDesk D act = w.onShared D (Shared.atDesk act) := by
  have hsettle : ∀ (r : Reply (Desk σ) α) (w : World σ),
      settle (honour D) (fun w => w.desk) withDesk r w
        = settle (honour D) toShared withShared (r.within Shared.desk Shared.withDesk w.toShared)
          w := by
    intro r
    induction r with
    | done value state => exact fun _ => rfl
    | cancel token state resume ih => exact fun w => ih _ _ _
  exact hsettle (act w.desk) w

/-- What a primitive on the desk meets, it has when the world carries it out. -/
theorem onDesk_meets {keep : Desk σ → Desk σ → Prop} {Q : α → Desk σ → Prop} {A : World σ → Prop}
    {act : Desk σ → Reply (Desk σ) α} {w : World σ} (h : (act w.desk).Meets keep Q)
    (hh : ∀ w desk token, A w → A ((w.withDesk desk).honour D token).2 ∧
      keep desk ((w.withDesk desk).honour D token).2.desk)
    (hw : A w) :
    ∃ w' desk, A w' ∧ Q (w.onDesk D act).1 desk ∧ (w.onDesk D act).2 = w'.withDesk desk :=
  settle_meets h hh hw

/-- What a primitive meets during which the secure world runs, it has when the world carries it out,
however requests are answered. -/
theorem settleShared_meets {answers : Answers σ} {keep : Shared σ → Shared σ → Prop}
    {Q : α → Shared σ → Prop} {A : World σ → Prop} (act : Shared σ → Reply (Shared σ) α)
    {w : World σ} (h : (act w.toShared).Meets keep Q)
    (hh : ∀ w shared token, A w → A (answers token (w.withShared shared)).2 ∧
      keep shared (answers token (w.withShared shared)).2.toShared)
    (hw : A w) :
    ∃ w' shared, A w' ∧ Q (w.settleShared answers act).1 shared ∧
      (w.settleShared answers act).2 = w'.withShared shared :=
  settle_meets h hh hw

/-- What a primitive meets during which the secure world runs, it has when the world carries it
out. -/
theorem onShared_meets {keep : Shared σ → Shared σ → Prop} {Q : α → Shared σ → Prop}
    {A : World σ → Prop} {act : Shared σ → Reply (Shared σ) α} {w : World σ}
    (h : (act w.toShared).Meets keep Q)
    (hh : ∀ w shared token, A w → A ((w.withShared shared).honour D token).2 ∧
      keep shared ((w.withShared shared).honour D token).2.toShared)
    (hw : A w) :
    ∃ w' shared, A w' ∧ Q (w.onShared D act).1 shared ∧
      (w.onShared D act).2 = w'.withShared shared :=
  settleShared_meets act h hh hw

/-- What a primitive meets during which the secure world runs, it has in the end, if the answers to
requests do what is allowed for. -/
theorem settleShared_meets_of_kept {answers : Answers σ} {keep : Shared σ → Shared σ → Prop}
    (hanswers : ∀ token w, keep w.toShared (answers token w).2.toShared)
    {Q : α → Shared σ → Prop} (act : Shared σ → Reply (Shared σ) α) {w : World σ}
    (h : (act w.toShared).Meets keep Q) :
    Q (w.settleShared answers act).1 (w.settleShared answers act).2.toShared := by
  obtain ⟨w', shared, -, hq, he⟩ := settleShared_meets (A := fun _ => True) act h
    (fun w' shared token _ => ⟨trivial, hanswers token (w'.withShared shared)⟩) trivial
  rw [he]
  exact hq

/-- What a primitive meets during which the secure world runs, it has in the end, if requests to
cancel do what is allowed for. -/
theorem Tolerates.onShared_meets {D : Driver σ} {keep : Shared σ → Shared σ → Prop}
    (htol : Tolerates D fun w after => keep w.toShared after.toShared)
    {Q : α → Shared σ → Prop} {act : Shared σ → Reply (Shared σ) α} {w : World σ}
    (h : (act w.toShared).Meets keep Q) :
    Q (w.onShared D act).1 (w.onShared D act).2.toShared :=
  settleShared_meets_of_kept htol.honour act h

/-- A relation that is about what the secure world may touch allows for the steps of a request, if a
notification meets it where the requests that come between do. -/
theorem tolerates_of_shared {D : Driver σ} {R : Shared σ → Shared σ → Prop} (refl : ∀ s, R s s)
    (trans : ∀ a b c, R a b → R b c → R a c) (hlog : ∀ s r, r.mismatch? = .none → R s (s.log r))
    (hflag : ∀ s id, R s (s.onPage id (·.setCancelled true)))
    (hnotify : ∀ handle s, (D.notify .cancellation handle s).Meets R fun _ s' => R s s') :
    Tolerates D fun w after => R w.toShared after.toShared where
  refl w := refl w.toShared
  trans a b c := trans a.toShared b.toShared c.toShared
  logged w r hr := hlog w.toShared r hr
  cancelled w _ := refl w.toShared
  flagged w _ channel _ _ := hflag w.toShared channel.page
  notified _ hanswers w _ channel _ _ := settleShared_meets_of_kept hanswers
    (D.notify .cancellation channel.handle) (hnotify channel.handle w.toShared)

/-- A primitive on the desk leaves the sessions as they are. -/
@[simp] theorem channels_onDesk (act : Desk σ → Reply (Desk σ) α) (w : World σ) :
    (w.onDesk D act).2.channels = w.channels :=
  (tolerates_channels D).onDesk (act w.desk |>.stretches_true w.desk) fun _ _ _ => rfl

/-- A primitive during which the secure world runs leaves the sessions as they are. -/
@[simp] theorem channels_onShared (act : Shared σ → Reply (Shared σ) α) (w : World σ) :
    (w.onShared D act).2.channels = w.channels :=
  (tolerates_channels D).onShared (act w.toShared |>.stretches_true w.toShared) fun _ _ _ => rfl

end Primitives

end World

end TeeClient
