import ApiTrial.Routine.Run
import Mathlib.Data.List.Forall2

/-! How a routine ends, and what it keeps true on its way. `Trial.exec` gives the outcome of a trial
together with the world behind it, and is taken apart at each step of a trial. `Routine.Keeps` says
of the tree itself that every change it may make preserves an invariant, so that the invariant holds
behind a run over any network. -/
namespace ApiTrial

theorem ok_of_bind_eq_ok {α β ε : Type} (x : Except ε α) (f : α → Except ε β) (b : β)
    (h : (x >>= f) = .ok b) : ∃ a, x = .ok a ∧ f a = .ok b := by
  cases x with
  | error e => cases h
  | ok a => exact ⟨a, rfl, h⟩

theorem bind_eq_ok_iff {α β ε : Type} (x : Except ε α) (f : α → Except ε β) (b : β) :
    (x >>= f) = .ok b ↔ ∃ a, x = .ok a ∧ f a = .ok b := by
  constructor
  · exact ok_of_bind_eq_ok x f b
  · rintro ⟨a, rfl, h⟩
    exact h

theorem ok_of_toBool {α ε : Type} (x : Except ε α) (h : x.toBool = true) : ∃ a, x = .ok a := by
  cases x with
  | error e => cases h
  | ok a => exact ⟨a, rfl⟩

theorem eq_ok_of_toBool {α ε : Type} (x : Except ε α) (fallback : α) (h : x.toBool = true) :
    x = .ok (x.toOption.getD fallback) := by
  obtain ⟨a, rfl⟩ := ok_of_toBool x h
  rfl

/-- A list goes well as a whole if each of its entries does. -/
theorem mapM_eq_ok_iff {α β ε : Type} (f : α → Except ε β) (l : List α) (bs : List β) :
    l.mapM f = .ok bs ↔ List.Forall₂ (fun a b => f a = .ok b) l bs := by
  induction l generalizing bs with
  | nil => simp [pure, Except.pure, eq_comm]
  | cons a rest ih =>
    rw [List.mapM_cons, List.forall₂_cons_left_iff]
    cases hf : f a with
    | error e => simp [bind, Except.bind]
    | ok b =>
      cases hr : rest.mapM f with
      | error e =>
        have hn (cs : List β) : ¬ List.Forall₂ (fun a b => f a = .ok b) rest cs := by
          rw [← ih, hr]
          exact nofun
        simp [bind, Except.bind, hn]
      | ok cs =>
        have hx (ds : List β) : List.Forall₂ (fun a b => f a = .ok b) rest ds ↔ cs = ds := by
          rw [← ih, hr, Except.ok.injEq]
        simp [bind, Except.bind, pure, Except.pure, hx, eq_comm]

theorem exists_mapM_eq_ok {α β ε : Type} (f : α → Except ε β) (l : List α)
    (h : ∀ a ∈ l, ∃ b, f a = .ok b) : ∃ bs, l.mapM f = .ok bs := by
  simp only [mapM_eq_ok_iff]
  induction l with
  | nil => exact ⟨[], .nil⟩
  | cons a rest ih =>
    obtain ⟨b, hb⟩ := h a (by simp)
    obtain ⟨bs, hbs⟩ := ih fun c hc => h c (by simp [hc])
    exact ⟨b :: bs, .cons hb hbs⟩

theorem mem_iff_of_mapM_eq_ok {α β ε : Type} (f : α → Except ε β) (l : List α) (bs : List β)
    (h : l.mapM f = .ok bs) (b : β) : b ∈ bs ↔ ∃ a ∈ l, f a = .ok b := by
  rw [mapM_eq_ok_iff] at h
  induction h with
  | nil => simp
  | cons hab _ ih => simp [ih, hab, eq_comm]

theorem ok_of_mapM_eq_ok {α β ε : Type} (f : α → Except ε β) (l : List α) (bs : List β)
    (h : l.mapM f = .ok bs) (a : α) (ha : a ∈ l) : ∃ b ∈ bs, f a = .ok b := by
  rw [mapM_eq_ok_iff] at h
  induction h with
  | nil => cases ha
  | cons hab _ ih =>
    rcases List.mem_cons.mp ha with rfl | ha
    · exact ⟨_, by simp, hab⟩
    · obtain ⟨b, hb, hx⟩ := ih ha
      exact ⟨b, by simp [hb], hx⟩

namespace Trial
variable {α β : Type}

/-- The outcome of a trial and the world behind it. -/
def exec (network : Network) (trial : Trial α) (world : World) : Except Error α × World :=
  trial.run.run network world

@[simp] theorem exec_pure (network : Network) (a : α) (world : World) :
    exec network (pure a) world = (.ok a, world) := rfl

@[simp] theorem exec_read (network : Network) (view : World → α) (world : World) :
    exec network (Trial.read view) world = (.ok (view world), world) := rfl

@[simp] theorem exec_readExcept (network : Network) (view : World → Except Error α)
    (world : World) :
    exec network (ExceptT.mk (Routine.read view)) world = (view world, world) := rfl

@[simp] theorem exec_tell (network : Network) (event : Event) (world : World) :
    exec network (Trial.tell event) world = (.ok (), world) := rfl

@[simp] theorem exec_ofExcept (network : Network) (result : Except Error α) (world : World) :
    exec network (Trial.ofExcept result) world = (result, world) := rfl

@[simp] theorem exec_update (network : Network) (change : World → α × World) (world : World) :
    exec network (ExceptT.lift (Routine.update change)) world =
      (.ok (change world).1, (change world).2) := rfl

theorem exec_mapError (network : Network) (f : Error → Error) (trial : Trial α) (world : World) :
    exec network (Trial.mapError f trial) world =
      ((exec network trial world).1.mapError f, (exec network trial world).2) := by
  show Routine.run network ((fun r : Except Error α => r.mapError f) <$> trial.run) world = _
  rw [map_eq_pure_bind]
  exact Routine.run_bind network trial.run _ world

theorem exec_mapError_ok (network : Network) (f : Error → Error) (trial : Trial α)
    (world after : World) (a : α)
    (h : exec network (Trial.mapError f trial) world = (.ok a, after)) :
    exec network trial world = (.ok a, after) := by
  rw [exec_mapError] at h
  rcases hx : exec network trial world with ⟨r, w⟩
  rw [hx] at h
  cases r with
  | error e => cases h
  | ok b =>
    cases h
    rfl

/-- What follows a trial depends on its outcome alone, and on the world behind it. -/
theorem exec_bind (network : Network) (trial : Trial α) (f : α → Trial β) (world : World) :
    exec network (trial >>= f) world =
      Routine.run network (ExceptT.bindCont f (exec network trial world).1)
        (exec network trial world).2 :=
  Routine.run_bind network trial.run (ExceptT.bindCont f) world

theorem exec_bind_of_ok (network : Network) (trial : Trial α) (f : α → Trial β)
    (world middle : World) (a : α) (h : exec network trial world = (.ok a, middle)) :
    exec network (trial >>= f) world = exec network (f a) middle := by
  rw [exec_bind, h]
  rfl

theorem exec_bind_of_error (network : Network) (trial : Trial α) (f : α → Trial β)
    (world after : World) (e : Error) (h : exec network trial world = (.error e, after)) :
    exec network (trial >>= f) world = (.error e, after) := by
  rw [exec_bind, h]
  rfl

theorem exec_bind_ok (network : Network) (trial : Trial α) (f : α → Trial β)
    (world after : World) (b : β) (h : exec network (trial >>= f) world = (.ok b, after)) :
    ∃ a middle, exec network trial world = (.ok a, middle) ∧
      exec network (f a) middle = (.ok b, after) := by
  rcases hx : exec network trial world with ⟨r, middle⟩
  cases r with
  | error e =>
    rw [exec_bind_of_error network trial f world middle e hx] at h
    cases h
  | ok a =>
    rw [exec_bind_of_ok network trial f world middle a hx] at h
    exact ⟨a, middle, rfl, h⟩

theorem exec_bind_error (network : Network) (trial : Trial α) (f : α → Trial β)
    (world after : World) (e : Error)
    (h : exec network (trial >>= f) world = (.error e, after)) :
    exec network trial world = (.error e, after) ∨
      ∃ a middle, exec network trial world = (.ok a, middle) ∧
        exec network (f a) middle = (.error e, after) := by
  rcases hx : exec network trial world with ⟨r, middle⟩
  cases r with
  | error e' =>
    rw [exec_bind_of_error network trial f world middle e' hx] at h
    cases h
    exact Or.inl rfl
  | ok a =>
    rw [exec_bind_of_ok network trial f world middle a hx] at h
    exact Or.inr ⟨a, middle, rfl, h⟩

end Trial

namespace Routine
variable {α β : Type}

/-- Every change that a routine may make keeps an invariant of the world, whatever it is answered,
and its result is as wanted. -/
inductive Keeps (I : World → Prop) (Q : α → Prop) : Routine α → Prop where
  | done (a : α) (ha : Q a) : Keeps I Q (done a)
  | act (change : World → World) (next : World → Routine α) (hc : ∀ w, I w → I (change w))
      (hn : ∀ w, I w → Keeps I Q (next w)) : Keeps I Q (act change next)
  | send (request : WireRequest) (patience : Nat) (next : Attempt → Routine α)
      (hs : ∀ w, I w → I (w.sending request)) (hn : ∀ seen, Keeps I Q (next seen)) :
      Keeps I Q (send request patience next)
  | pause (time : Nat) (next : Routine α) (hn : Keeps I Q next) : Keeps I Q (pause time next)
  | note (event : Event) (next : Routine α) (hn : Keeps I Q next) : Keeps I Q (note event next)

theorem keeps_bind (I : World → Prop) (Q : α → Prop) (R : β → Prop) (routine : Routine α)
    (f : α → Routine β) (h : routine.Keeps I Q) (hf : ∀ a, Q a → (f a).Keeps I R) :
    (routine.bind f).Keeps I R := by
  induction h with
  | done a ha => exact hf a ha
  | act change next hc hn ih => exact .act change _ hc ih
  | send request patience next hs hn ih => exact .send request patience _ hs ih
  | pause time next hn ih => exact .pause time _ ih
  | note event next hn ih => exact .note event _ ih

theorem keeps_mono (I : World → Prop) (Q R : α → Prop) (routine : Routine α)
    (h : routine.Keeps I Q) (hqr : ∀ a, Q a → R a) : routine.Keeps I R := by
  rw [← bind_done routine]
  exact keeps_bind I Q R routine done h fun a ha => .done a (hqr a ha)

theorem run_of_keeps (I : World → Prop) (Q : α → Prop) (network : Network) (routine : Routine α)
    (world : World) (h : routine.Keeps I Q) (hw : I world) :
    Q (run network routine world).1 ∧ I (run network routine world).2 := by
  induction h generalizing world with
  | done a ha => exact ⟨ha, hw⟩
  | act change next hc hn ih => exact ih world hw (change world) (hc world hw)
  | send request patience next hs hn ih => exact ih _ _ (hs world hw)
  | pause time next hn ih => exact ih world hw
  | note event next hn ih => exact ih world hw

theorem untilWait_of_keeps (I : World → Prop) (Q : α → Prop) (routine : Routine α) (world : World)
    (h : routine.Keeps I Q) (hw : I world) :
    (routine.untilWait world).1.Keeps I Q ∧ I (routine.untilWait world).2 := by
  induction h generalizing world with
  | done a ha => exact ⟨.done a ha, hw⟩
  | act change next hc hn ih => exact ih world hw (change world) (hc world hw)
  | send request patience next hs hn ih => exact ⟨.send request patience next hs hn, hw⟩
  | pause time next hn ih => exact ⟨.pause time next hn, hw⟩
  | note event next hn ih => exact ih world hw

/-- A shorter patience makes no difference to an answer that comes before the limit. -/
theorem seenWithin_min (patience limit : Nat) (fate : Fate)
    (h : (fate.seenWithin (min patience limit)).elapsed < limit) :
    fate.seenWithin (min patience limit) = fate.seenWithin patience := by
  cases fate with
  | answered delay answer =>
    simp only [Fate.seenWithin] at h ⊢
    by_cases hd : delay < min patience limit
    · have hp : delay < patience := by omega
      rw [if_pos hd, if_pos hp]
    · rw [if_neg hd] at h
      have hl : min patience limit < limit := h
      have hp : min patience limit = patience := by omega
      rw [hp]
  | broken delay =>
    simp only [Fate.seenWithin] at h ⊢
    have hm : min delay (min patience limit) = min delay patience := by omega
    rw [hm]
  | silent =>
    simp only [Fate.seenWithin] at h ⊢
    have hp : min patience limit = patience := by omega
    rw [hp]

/-- A routine that ends within its time ends as it would without a limit. -/
theorem run_of_within (network : Network) (routine : Routine α) (limit : Nat)
    (world after : World) (a : α)
    (h : run network (routine.within limit) world = (some a, after)) :
    run network routine world = (a, after) := by
  induction routine generalizing limit world with
  | done b =>
    cases h
    rfl
  | act change next ih => exact ih world limit (change world) h
  | send request patience next ih =>
    rw [within, run] at h
    split at h
    · cases h
    · rename_i hl
      have hx := seenWithin_min patience limit (network world.sent request) (by omega)
      rw [hx] at h
      exact ih _ _ _ h
  | pause time next ih =>
    rw [within] at h
    split at h
    · cases h
    · exact ih _ world h
  | note event next ih => exact ih limit world h

/-- Keeping what a routine lets be seen does not change how it ends. -/
theorem run_collect (network : Network) (routine : Routine α) (world : World) :
    ∃ seen, run network routine.collect world =
      ((seen, (run network routine world).1), (run network routine world).2) := by
  induction routine generalizing world with
  | done a => exact ⟨[], rfl⟩
  | act change next ih => exact ih world (change world)
  | send request patience next ih => exact ih _ _
  | pause time next ih => exact ih world
  | note event next ih =>
    obtain ⟨seen, hs⟩ := ih world
    refine ⟨event :: seen, ?_⟩
    rw [collect, run, run_bind, hs]
    rfl

end Routine

namespace Trial
variable {α β : Type}

def Either (Q : α → Prop) (E : Error → Prop) : Except Error α → Prop
  | .ok a => Q a
  | .error e => E e

theorem either_true (result : Except Error α) : Either (fun _ => True) (fun _ => True) result := by
  cases result <;> exact True.intro

/-- Every change that a trial may make keeps an invariant, and it ends with a value or an error as
wanted. -/
def Keeps (I : World → Prop) (Q : α → Prop) (E : Error → Prop) (trial : Trial α) : Prop :=
  Routine.Keeps I (Either Q E) trial.run

variable (I : World → Prop) (E : Error → Prop)

theorem keeps_mono (Q R : α → Prop) (F : Error → Prop) (trial : Trial α)
    (h : Keeps I Q E trial) (hqr : ∀ a, Q a → R a) (hef : ∀ e, E e → F e) :
    Keeps I R F trial := by
  refine Routine.keeps_mono I _ _ trial.run h ?_
  intro r hr
  cases r with
  | ok a => exact hqr a hr
  | error e => exact hef e hr

theorem keeps_pure (Q : α → Prop) (a : α) (h : Q a) : Keeps I Q E (pure a : Trial α) :=
  .done _ h

theorem keeps_throw (Q : α → Prop) (e : Error) (h : E e) : Keeps I Q E (throw e : Trial α) :=
  .done _ h

theorem keeps_bind (Q : α → Prop) (R : β → Prop) (trial : Trial α) (f : α → Trial β)
    (h : Keeps I Q E trial) (hf : ∀ a, Q a → Keeps I R E (f a)) :
    Keeps I R E (trial >>= f) := by
  refine Routine.keeps_bind I _ _ trial.run _ h ?_
  intro r hr
  cases r with
  | ok a => exact hf a hr
  | error e => exact .done _ hr

theorem keeps_read (Q : α → Prop) (view : World → α) (h : ∀ w, I w → Q (view w)) :
    Keeps I Q E (Trial.read view) :=
  .act _ _ (fun _ hw => hw) fun w hw => .done _ (h w hw)

theorem keeps_readExcept (Q : α → Prop) (view : World → Except Error α)
    (h : ∀ w, I w → Either Q E (view w)) : Keeps I Q E (ExceptT.mk (Routine.read view)) :=
  .act _ _ (fun _ hw => hw) fun w hw => .done _ (h w hw)

theorem keeps_modify (Q : Unit → Prop) (change : World → World) (hq : Q ())
    (h : ∀ w, I w → I (change w)) : Keeps I Q E (Trial.modify change) :=
  .act change _ h fun _ _ => .done _ hq

theorem keeps_update (Q : α → Prop) (change : World → α × World)
    (h : ∀ w, I w → Q (change w).1 ∧ I (change w).2) :
    Keeps I Q E (ExceptT.lift (Routine.update change)) :=
  .act _ _ (fun w hw => (h w hw).2) fun w hw => .done _ (h w hw).1

theorem keeps_ofExcept (Q : α → Prop) (result : Except Error α) (h : Either Q E result) :
    Keeps I Q E (Trial.ofExcept result) :=
  .done result h

theorem keeps_mapError (Q : α → Prop) (F : Error → Prop) (f : Error → Error) (trial : Trial α)
    (h : Keeps I Q F trial) (hf : ∀ e, F e → E (f e)) : Keeps I Q E (Trial.mapError f trial) := by
  have hm : (Trial.mapError f trial).run =
      trial.run.bind fun r => Routine.done (r.mapError f) := rfl
  rw [Keeps, hm]
  refine Routine.keeps_bind I _ _ trial.run _ h ?_
  intro r hr
  cases r with
  | ok a => exact .done _ hr
  | error e => exact .done _ (hf e hr)

theorem exec_of_keeps (Q : α → Prop) (network : Network) (trial : Trial α) (world : World)
    (h : Keeps I Q E trial) (hw : I world) :
    Either Q E (exec network trial world).1 ∧ I (exec network trial world).2 :=
  Routine.run_of_keeps I _ network trial.run world h hw

end Trial

end ApiTrial
