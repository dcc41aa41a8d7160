import ApiTrial.Proofs.RoutineOutcome

/-! The worlds that a routine passes through. A run that is cut short leaves one of the worlds that
the whole run passes through, so what is to hold however a run ends is shown for these. They are
those of the first part, and then those of the second part from where the first one ends. -/
namespace ApiTrial

namespace Routine
variable {α β : Type}

inductive Reaches (network : Network) : Routine α → World → World → Prop
  | start (routine : Routine α) (world : World) : Reaches network routine world world
  | step (routine : Routine α) (world reached : World)
      (h : Reaches network (routine.step network world).1 (routine.step network world).2 reached) :
      Reaches network routine world reached

/-- A routine that has ended changes nothing any more. -/
theorem eq_of_reaches_done (network : Network) (a : α) (world reached : World)
    (h : (done a).Reaches network world reached) : reached = world := by
  generalize hd : done a = routine at h
  induction h with
  | start routine world => rfl
  | step routine world reached h ih =>
    subst hd
    exact ih rfl

theorem reaches_run (network : Network) (routine : Routine α) (world : World) :
    routine.Reaches network world (run network routine world).2 := by
  induction routine generalizing world with
  | done a => exact .start _ world
  | act change next ih => exact .step _ world _ (ih world (change world))
  | send request patience next ih => exact .step _ world _ (ih _ _)
  | pause time next ih => exact .step _ world _ (ih world)
  | note event next ih => exact .step _ world _ (ih world)

/-- Whether or not there is time for a routine to end, the world behind it is one that the routine
passes through. -/
theorem reaches_within (network : Network) (routine : Routine α) (limit : Nat) (world : World) :
    routine.Reaches network world (run network (routine.within limit) world).2 := by
  induction routine generalizing limit world with
  | done a => exact .start _ world
  | act change next ih => exact .step _ world _ (ih world limit (change world))
  | send request patience next ih =>
    rw [within, run]
    split
    · exact .step _ world _ (.start _ _)
    · rename_i hl
      -- There is time left behind the wait, so its end was not brought about by the limit.
      have hsame := seenWithin_min patience limit (network world.sent request) (by omega)
      rw [hsame]
      exact .step _ world _ (ih _ _ _)
  | pause time next ih =>
    rw [within]
    split
    · exact .start _ world
    · exact .step _ world _ (ih _ world)
  | note event next ih => exact .step _ world _ (ih limit world)

/-- A world on the way is reached within the first part, or behind it. -/
theorem reaches_bind (network : Network) (routine : Routine α) (f : α → Routine β)
    (world reached : World) (h : (routine.bind f).Reaches network world reached) :
    routine.Reaches network world reached ∨
      (f (run network routine world).1).Reaches network (run network routine world).2 reached := by
  induction routine generalizing world with
  | done a => exact Or.inr h
  | act change next ih =>
    cases h with
    | start => exact Or.inl (.start _ _)
    | step _ _ _ h => exact (ih world (change world) h).imp_left (.step _ world _)
  | send request patience next ih =>
    cases h with
    | start => exact Or.inl (.start _ _)
    | step _ _ _ h => exact (ih _ _ h).imp_left (.step _ world _)
  | pause time next ih =>
    cases h with
    | start => exact Or.inl (.start _ _)
    | step _ _ _ h => exact (ih world h).imp_left (.step _ world _)
  | note event next ih =>
    cases h with
    | start => exact Or.inl (.start _ _)
    | step _ _ _ h => exact (ih world h).imp_left (.step _ world _)

/-- What every change of a routine keeps holds of every world that the routine passes through. -/
theorem keeps_reaches (I : World → Prop) (Q : α → Prop) (network : Network) (routine : Routine α)
    (world reached : World) (h : routine.Keeps I Q) (hw : I world)
    (hr : routine.Reaches network world reached) : I reached := by
  induction hr with
  | start routine world => exact hw
  | step routine world reached hr ih =>
    cases h with
    | done a ha => exact ih (.done a ha) hw
    | act change next hc hn => exact ih (hn world hw) (hc world hw)
    | send request patience next hs hn => exact ih (hn _) (hs world hw)
    | pause time next hn => exact ih hn hw
    | note event next hn => exact ih hn hw

end Routine

namespace Trial
variable {α β : Type}

def Reaches (network : Network) (trial : Trial α) (world reached : World) : Prop :=
  trial.run.Reaches network world reached

/-- The worlds of a trial are those of its first part, and if this goes well those of the rest. -/
theorem reaches_bind (network : Network) (trial : Trial α) (f : α → Trial β)
    (world reached : World) (h : (trial >>= f).Reaches network world reached) :
    trial.Reaches network world reached ∨ ∃ a middle,
      exec network trial world = (.ok a, middle) ∧ (f a).Reaches network middle reached := by
  rcases Routine.reaches_bind network trial.run (ExceptT.bindCont f) world reached h with h | h
  · exact Or.inl h
  · rcases hx : exec network trial world with ⟨outcome, middle⟩
    rw [exec] at hx
    rw [hx] at h
    cases outcome with
    | ok a => exact Or.inr ⟨a, middle, rfl, h⟩
    | error e =>
      have hend : reached = middle :=
        Routine.eq_of_reaches_done network (Except.error e : Except Error β) middle reached h
      have hrun := Routine.reaches_run network trial.run world
      rw [hx] at hrun
      exact Or.inl (hend ▸ hrun)

theorem reaches_of_exec (network : Network) (trial : Trial α) (world after : World)
    (outcome : Except Error α) (h : exec network trial world = (outcome, after)) :
    trial.Reaches network world after := by
  have hrun := Routine.reaches_run network trial.run world
  rw [exec] at h
  rwa [h] at hrun

theorem keeps_reaches (I : World → Prop) (Q : α → Prop) (E : Error → Prop) (network : Network)
    (trial : Trial α) (world reached : World) (h : Keeps I Q E trial) (hw : I world)
    (hr : trial.Reaches network world reached) : I reached :=
  Routine.keeps_reaches I _ network trial.run world reached h hw hr

theorem eq_of_reaches_ofExcept (network : Network) (result : Except Error α)
    (world reached : World) (h : (Trial.ofExcept result).Reaches network world reached) :
    reached = world :=
  Routine.eq_of_reaches_done network result world reached h

theorem eq_of_reaches_tell (network : Network) (event : Event) (world reached : World)
    (h : (Trial.tell event).Reaches network world reached) : reached = world := by
  cases h with
  | start => rfl
  | step _ _ _ h => exact Routine.eq_of_reaches_done network (Except.ok ()) world reached h

theorem eq_of_reaches_read (network : Network) (view : World → α) (world reached : World)
    (h : (Trial.read view).Reaches network world reached) : reached = world := by
  cases h with
  | start => rfl
  | step _ _ _ h => exact Routine.eq_of_reaches_done network (Except.ok (view world)) world reached h

theorem eq_or_eq_of_reaches_modify (network : Network) (change : World → World)
    (world reached : World) (h : (Trial.modify change).Reaches network world reached) :
    reached = world ∨ reached = change world := by
  cases h with
  | start => exact Or.inl rfl
  | step _ _ _ h =>
    exact Or.inr (Routine.eq_of_reaches_done network (Except.ok ()) (change world) reached h)

end Trial
end ApiTrial
