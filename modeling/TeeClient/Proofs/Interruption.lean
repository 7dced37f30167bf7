import TeeClient.World

/-!
# Primitives that are interrupted by cancellations

A primitive may ask for cancellations before it is done, and each of them changes the state that the
primitive goes on with. `Reply.Meets keep Q` says that a reply ends in `Q` whatever these changes
are, as long as each of them is one that `keep` allows; `Reply.Stretches R` says what a reply does
by itself, from one cancellation to the next. Both hold of what a world carries out, however it
answers the requests.

Main statements:

* `Reply.Meets.bind` and `Reply.Meets.within`: how the property of a reply is composed;
* `World.settle_meets`: a reply that meets a property has it when the world carries it out;
* `World.settle_relates`: what a reply does by itself and what is done on request, the world does.
-/

namespace TeeClient

namespace Reply

variable {s t α β : Type} {keep : s → s → Prop} {Q R : α → s → Prop}

/-- The reply ends in `Q`, whatever the cancellations that it asks for do to the state, as long as
each of them does something that `keep` allows. -/
def Meets (keep : s → s → Prop) (Q : α → s → Prop) : Reply s α → Prop
  | .done value state => Q value state
  | .cancel _ state resume =>
    ∀ outcome after, keep state after → (resume outcome after).Meets keep Q

/-- A reply that meets a property meets every weaker one. -/
theorem Meets.imp {r : Reply s α} (hr : r.Meets keep Q) (h : ∀ value state, Q value state →
    R value state) : r.Meets keep R := by
  induction r with
  | done value state => exact h value state hr
  | cancel token state resume ih =>
    intro outcome after hk
    exact ih outcome after (hr outcome after hk)

/-- Every reply ends somewhere. -/
theorem meets_true (r : Reply s α) : r.Meets keep fun _ _ => True := by
  induction r with
  | done value state => trivial
  | cancel token state resume ih => exact fun outcome after _ => ih outcome after

/-- What comes after a reply may rely on what the reply ends in. -/
theorem Meets.bind {r : Reply s α} {next : α → s → Reply s β} {Q : β → s → Prop}
    (hr : r.Meets keep fun value state => (next value state).Meets keep Q) :
    (r.bind next).Meets keep Q := by
  induction r with
  | done value state => exact hr
  | cancel token state resume ih =>
    intro outcome after hk
    exact ih outcome after (hr outcome after hk)

/-- A reply about a part, seen from the whole. `P` is what stays true of the whole around the part
while the reply is under way. -/
theorem Meets.within {part : t → s} {update : t → s → t} {keepWhole : t → t → Prop}
    {P : t → Prop} {r : Reply s α} (hr : r.Meets keep Q)
    (hpart : ∀ whole state after, keepWhole (update whole state) after → keep state (part after))
    (hP : ∀ whole state after, P whole → keepWhole (update whole state) after → P after)
    {whole : t} (hw : P whole) :
    (r.within part update whole).Meets keepWhole fun value after =>
      ∃ around state, P around ∧ Q value state ∧ after = update around state := by
  induction r generalizing whole with
  | done value state => exact ⟨whole, state, hw, hr, rfl⟩
  | cancel token state resume ih =>
    intro outcome after hk
    exact ih outcome (part after) (hr outcome _ (hpart whole state after hk))
      (hP whole state after hw hk)

/-- What stays true around the part, when nothing is known of the reply about it. -/
theorem meets_within {part : t → s} {update : t → s → t} {keepWhole : t → t → Prop}
    {P : t → Prop} (r : Reply s α)
    (hP : ∀ whole state after, P whole → keepWhole (update whole state) after → P after)
    {whole : t} (hw : P whole) :
    (r.within part update whole).Meets keepWhole fun _ after =>
      ∃ around state, P around ∧ after = update around state := by
  have hr : r.Meets (fun _ _ => True) fun _ _ => True := r.meets_true
  refine .imp (hr.within (fun _ _ _ _ => trivial) hP hw) ?_
  rintro value after ⟨around, state, h, -, rfl⟩
  exact ⟨around, state, h, rfl⟩

/-! ### Replies about parts of parts -/

section Parts

variable {u : Type} (part : t → s) (update : t → s → t)

/-- A reply about a part may start from the whole with that part replaced. -/
theorem within_update (hupdate : ∀ whole state state', update (update whole state) state'
    = update whole state') (r : Reply s α) (whole : t) (state : s) :
    r.within part update (update whole state) = r.within part update whole := by
  cases r with
  | done value state' => exact congrArg (done value) (hupdate whole state state')
  | cancel token state' resume => simp only [within, hupdate]

/-- What comes after a reply about a part goes on with the part that the reply leaves. -/
theorem within_bind (hpart : ∀ whole state, part (update whole state) = state)
    (hupdate : ∀ whole state state', update (update whole state) state' = update whole state')
    (r : Reply s α) (next : α → s → Reply s β) (whole : t) :
    (r.bind next).within part update whole = (r.within part update whole).bind fun value whole =>
      (next value (part whole)).within part update whole := by
  induction r generalizing whole with
  | done value state =>
    show _ = (next value (part (update whole state))).within part update (update whole state)
    rw [hpart, within_update part update hupdate]
    rfl
  | cancel token state resume ih =>
    exact congrArg (cancel token _) (funext fun outcome => funext fun after => ih outcome _ after)

/-- A reply about a part of a part is one about a part of the whole. -/
theorem within_within (inner : s → u) (replace : s → u → s) (r : Reply u α) (whole : t) :
    (r.within inner replace (part whole)).within part update whole
      = r.within (fun whole => inner (part whole))
        (fun whole state => update whole (replace (part whole) state)) whole := by
  induction r generalizing whole with
  | done value state => rfl
  | cancel token state resume ih =>
    exact congrArg (cancel token _) (funext fun outcome => funext fun after => ih outcome _ after)

end Parts

/-! ### What is done in one go -/

section Stretches

variable {R : s → s → Prop} {R' : t → t → Prop}

/-- From one request to cancel to the next, and from the last one to the end, a reply that starts at
a state does what `R` allows. Nothing is said of the requests. -/
def Stretches (R : s → s → Prop) (start : s) : Reply s α → Prop
  | .done _ state => R start state
  | .cancel _ state resume =>
    R start state ∧ ∀ outcome after, (resume outcome after).Stretches R after

/-- A reply of which nothing is known. -/
theorem stretches_true (start : s) (r : Reply s α) : r.Stretches (fun _ _ => True) start := by
  induction r generalizing start with
  | done value state => trivial
  | cancel token state resume ih => exact ⟨trivial, fun outcome after => ih outcome after after⟩

/-- A reply may start earlier. -/
theorem Stretches.earlier (htrans : ∀ a b c, R a b → R b c → R a c) {start start' : s}
    {r : Reply s α} (h : R start start') (hr : r.Stretches R start') : r.Stretches R start := by
  cases r with
  | done value state => exact htrans _ _ _ h hr
  | cancel token state resume => exact ⟨htrans _ _ _ h hr.1, hr.2⟩

/-- What comes after a reply goes on where the reply ends. -/
theorem Stretches.bind (htrans : ∀ a b c, R a b → R b c → R a c) {start : s} {r : Reply s α}
    {next : α → s → Reply s β} (hr : r.Stretches R start)
    (hnext : ∀ value state, (next value state).Stretches R state) :
    (r.bind next).Stretches R start := by
  induction r generalizing start with
  | done value state => exact .earlier htrans hr (hnext value state)
  | cancel token state resume ih =>
    exact ⟨hr.1, fun outcome after => ih outcome after (hr.2 outcome after)⟩

/-- A reply about a part, seen from the whole. -/
theorem Stretches.within {part : t → s} {update : t → s → t} {whole : t} {r : Reply s α}
    (hr : r.Stretches R (part whole))
    (h : ∀ whole state, R (part whole) state → R' whole (update whole state)) :
    (r.within part update whole).Stretches R' whole := by
  induction r generalizing whole with
  | done value state => exact h whole state hr
  | cancel token state resume ih =>
    exact ⟨h whole state hr.1, fun outcome after => ih outcome (part after)
      (hr.2 outcome (part after))⟩

/-- A reply that does what is allowed ends in what is allowed, if the requests do that as well. -/
theorem Stretches.meets (htrans : ∀ a b c, R a b → R b c → R a c) {start : s} {r : Reply s α}
    (hr : r.Stretches R start) : r.Meets R fun _ state => R start state := by
  induction r generalizing start with
  | done value state => exact hr
  | cancel token state resume ih =>
    intro outcome after hk
    exact .imp (ih outcome after (hr.2 outcome after)) fun _ _ h =>
      htrans _ _ _ (htrans _ _ _ hr.1 hk) h

end Stretches

end Reply

namespace World

variable {σ s α : Type} {answers : Answers σ} {part : World σ → s} {update : World σ → s → World σ}

/-- A reply that meets a property has it when the world carries it out. `around` is what stays true
of the world around the part that the reply is about; the requests to cancel have to respect
both. -/
theorem settle_meets {keep : s → s → Prop} {Q : α → s → Prop} {around : World σ → Prop}
    {r : Reply s α} (hr : r.Meets keep Q)
    (hh : ∀ w state token, around w → around (answers token (update w state)).2 ∧
      keep state (part (answers token (update w state)).2))
    {w : World σ} (hw : around w) :
    ∃ w' state, around w' ∧ Q (settle answers part update r w).1 state ∧
      (settle answers part update r w).2 = update w' state := by
  induction r generalizing w with
  | done value state => exact ⟨w, state, hw, hr, rfl⟩
  | cancel token state resume ih =>
    obtain ⟨ha, hk⟩ := hh w state token hw
    exact ih _ _ (hr _ _ hk) ha

/-- What every update of the part and every request to cancel preserves, a reply preserves. -/
theorem settle_preserves {P : World σ → Prop} (hu : ∀ w state, P w → P (update w state))
    (hh : ∀ token w, P w → P (answers token w).2) (r : Reply s α) {w : World σ} (hw : P w) :
    P (settle answers part update r w).2 := by
  induction r generalizing w with
  | done value state => exact hu w state hw
  | cancel token state resume ih => exact ih _ _ (hh token _ (hu w state hw))

/-- A relation that allows for what a reply does by itself, and for each request to cancel, allows
for all that the world does when it carries the reply out. -/
theorem settle_relates {R : World σ → World σ → Prop} {S : s → s → Prop}
    (htrans : ∀ a b c, R a b → R b c → R a c)
    (hupdate : ∀ w state, S (part w) state → R w (update w state))
    (hh : ∀ token w, R w (answers token w).2) {r : Reply s α} {w : World σ}
    (hr : r.Stretches S (part w)) : R w (settle answers part update r w).2 := by
  induction r generalizing w with
  | done value state => exact hupdate w state hr
  | cancel token state resume ih =>
    refine htrans _ _ _ (htrans _ _ _ (hupdate w state hr.1) (hh token _)) ?_
    exact ih _ _ (hr.2 _ _)

/-- What a world does depends on the answers to those requests only that it meets. -/
theorem settle_congr {other : Answers σ} {P : World σ → Prop}
    (hu : ∀ w state, P w → P (update w state)) (hh : ∀ token w, P w → P (answers token w).2)
    (hsame : ∀ token w, P w → other token w = answers token w) (r : Reply s α) {w : World σ}
    (hw : P w) : settle other part update r w = settle answers part update r w := by
  induction r generalizing w with
  | done value state => rfl
  | cancel token state resume ih =>
    unfold settle
    rw [hsame token _ (hu w state hw)]
    exact ih _ _ (hh token _ (hu w state hw))

end World

end TeeClient
