import ApiTrial.Proofs.LaneTurns
import ApiTrial.Proofs.RoutineOutcome

/-! What a lane may do to a world that other lanes change as well. `Routine.Guarantees` says of the
tree itself that each of its steps stays within bounds in every world that it may find, whatever
happened since the step before. If no lane spoils what the others rely on, every turn of an
interleaving stays within the bounds of its lane. -/
namespace ApiTrial
namespace Routine
variable {α β : Type}

/-- Each step that a routine may make in a world that is as relied on changes it within bounds, and
the result of the routine is as wanted. -/
inductive Guarantees (R : World → Prop) (G : World → World → Prop) (Q : α → Prop) :
    Routine α → Prop where
  | done (a : α) (ha : Q a) : Guarantees R G Q (done a)
  | act (change : World → World) (next : World → Routine α) (hc : ∀ w, R w → G w (change w))
      (hn : ∀ w, R w → Guarantees R G Q (next w)) : Guarantees R G Q (act change next)
  | send (request : WireRequest) (patience : Nat) (next : Attempt → Routine α)
      (hs : ∀ w, R w → G w (w.sending request)) (hn : ∀ seen, Guarantees R G Q (next seen)) :
      Guarantees R G Q (send request patience next)
  | pause (time : Nat) (next : Routine α) (hw : ∀ w, R w → G w w) (hn : Guarantees R G Q next) :
      Guarantees R G Q (pause time next)
  | note (event : Event) (next : Routine α) (hw : ∀ w, R w → G w w) (hn : Guarantees R G Q next) :
      Guarantees R G Q (note event next)

variable (R : World → Prop) (G : World → World → Prop)

theorem guarantees_bind (Q : α → Prop) (S : β → Prop) (routine : Routine α) (f : α → Routine β)
    (h : routine.Guarantees R G Q) (hf : ∀ a, Q a → (f a).Guarantees R G S) :
    (routine.bind f).Guarantees R G S := by
  induction h with
  | done a ha => exact hf a ha
  | act change next hc hn ih => exact .act change _ hc ih
  | send request patience next hs hn ih => exact .send request patience _ hs ih
  | pause time next hw hn ih => exact .pause time _ hw ih
  | note event next hw hn ih => exact .note event _ hw ih

/-- Where more may be relied on, a routine keeps to its bounds all the more. -/
theorem guarantees_mono (S : World → Prop) (H : World → World → Prop) (Q : α → Prop)
    (routine : Routine α) (h : routine.Guarantees R G Q) (hsr : ∀ w, S w → R w)
    (hgh : ∀ w w', G w w' → H w w') : routine.Guarantees S H Q := by
  induction h with
  | done a ha => exact .done a ha
  | act change next hc hn ih =>
    exact .act change _ (fun w hw => hgh _ _ (hc w (hsr w hw))) fun w hw => ih w (hsr w hw)
  | send request patience next hs hn ih =>
    exact .send request patience _ (fun w hw => hgh _ _ (hs w (hsr w hw))) ih
  | pause time next hsame hn ih =>
    exact .pause time _ (fun w hw => hgh _ _ (hsame w (hsr w hw))) ih
  | note event next hsame hn ih =>
    exact .note event _ (fun w hw => hgh _ _ (hsame w (hsr w hw))) ih

/-- What is kept by every step within the bounds is kept by the routine. -/
theorem keeps_of_guarantees (I : World → Prop) (Q : α → Prop) (routine : Routine α)
    (h : routine.Guarantees R G Q) (hir : ∀ w, I w → R w)
    (hig : ∀ w w', I w → G w w' → I w') : routine.Keeps I Q := by
  induction h with
  | done a ha => exact .done a ha
  | act change next hc hn ih =>
    exact .act change next (fun w hw => hig w _ hw (hc w (hir w hw))) fun w hw => ih w (hir w hw)
  | send request patience next hs hn ih =>
    exact .send request patience next (fun w hw => hig w _ hw (hs w (hir w hw))) ih
  | pause time next hw hn ih => exact .pause time next ih
  | note event next hw hn ih => exact .note event next ih

/-- A routine that is cut short makes no step that it would not make otherwise. -/
theorem guarantees_within (Q : α → Prop) (routine : Routine α) (limit : Nat)
    (h : routine.Guarantees R G Q) : (routine.within limit).Guarantees R G fun _ => True := by
  induction h generalizing limit with
  | done a ha => exact .done _ True.intro
  | act change next hc hn ih => exact .act change _ hc fun w hw => ih w hw limit
  | send request patience next hs hn ih =>
    refine .send request _ _ hs ?_
    intro seen
    split
    · exact .done _ True.intro
    · exact ih seen _
  | pause time next hw hn ih =>
    rw [within]
    split
    · exact .pause _ _ hw (.done _ True.intro)
    · exact .pause _ _ hw (ih _)
  | note event next hw hn ih => exact .note event _ hw (ih limit)

theorem guarantees_collect (Q : α → Prop) (routine : Routine α) (h : routine.Guarantees R G Q) :
    routine.collect.Guarantees R G fun _ => True := by
  induction h with
  | done a ha => exact .done _ True.intro
  | act change next hc hn ih => exact .act change _ hc ih
  | send request patience next hs hn ih => exact .send request patience _ hs ih
  | pause time next hw hn ih => exact .pause time _ hw ih
  | note event next hw hn ih =>
    exact guarantees_bind R G (fun _ => True) _ _ _ ih fun _ _ => .done _ True.intro

/-- The first step of a routine is within bounds, and what is left of it keeps to them. -/
theorem guarantees_step (Q : α → Prop) (network : Network) (routine : Routine α) (world : World)
    (h : routine.Guarantees R G Q) (hworks : routine.Works) (hw : R world) :
    G world (step network routine world).2 ∧ (step network routine world).1.Guarantees R G Q := by
  cases h with
  | done a ha => exact absurd rfl (hworks a)
  | act change next hc hn => exact ⟨hc world hw, hn world hw⟩
  | send request patience next hs hn => exact ⟨hs world hw, hn _⟩
  | pause time next hsame hn => exact ⟨hsame world hw, hn⟩
  | note event next hsame hn => exact ⟨hsame world hw, hn⟩

/-- Lanes that keep to their bounds, none of which spoils what all rely on, do so in every turn. -/
theorem turns_of_guarantees (bounds : Nat → World → World → Prop) (Q : α → Prop)
    (hr : ∀ lane w w', R w → bounds lane w w' → R w') (network : Network)
    (lanes : List (Routine α)) (world final : World) (turns : List Turn) (results : List α)
    (h : Interleaves network lanes world turns results final)
    (hl : ∀ (lane : Nat) (routine : Routine α), lanes[lane]? = some routine →
      routine.Guarantees R (bounds lane) Q)
    (hw : R world) :
    ∀ turn ∈ turns, R turn.before ∧ bounds turn.lane turn.before turn.after := by
  induction h with
  | done results world => exact fun _ hmem => absurd hmem List.not_mem_nil
  | turn lanes world lane routine turns results final hlane hworks hrest ih =>
    obtain ⟨hbound, hleft⟩ := guarantees_step R (bounds lane) Q network routine world
      (hl lane routine hlane) hworks hw
    have hlt := (List.getElem?_eq_some_iff.mp hlane).1
    have hlater := ih (by
      intro other current hother
      by_cases he : lane = other
      · subst he
        rw [List.getElem?_set_self hlt] at hother
        cases hother
        exact hleft
      · rw [List.getElem?_set_ne he] at hother
        exact hl other current hother) (hr lane _ _ hw hbound)
    exact List.forall_mem_cons.mpr ⟨⟨hw, hbound⟩, hlater⟩

end Routine

namespace Trial
variable {α β : Type} (R : World → Prop) (G : World → World → Prop)

/-- Each step that a trial may make is within bounds, and a value that it ends with is as wanted. -/
def Guarantees (Q : α → Prop) (trial : Trial α) : Prop :=
  Routine.Guarantees R G (Either Q fun _ => True) trial.run

theorem guarantees_pure (Q : α → Prop) (a : α) (h : Q a) : Guarantees R G Q (pure a : Trial α) :=
  .done _ h

theorem guarantees_throw (Q : α → Prop) (e : Error) : Guarantees R G Q (throw e : Trial α) :=
  .done _ True.intro

theorem guarantees_bind (Q : α → Prop) (S : β → Prop) (trial : Trial α) (f : α → Trial β)
    (h : Guarantees R G Q trial) (hf : ∀ a, Q a → Guarantees R G S (f a)) :
    Guarantees R G S (trial >>= f) := by
  refine Routine.guarantees_bind R G _ _ trial.run _ h ?_
  intro r hr
  cases r with
  | ok a => exact hf a hr
  | error e => exact .done _ True.intro

theorem guarantees_read (hw : ∀ w, R w → G w w) (view : World → α) :
    Guarantees R G (fun _ => True) (Trial.read view) :=
  .act _ _ hw fun _ _ => .done _ True.intro

theorem guarantees_readExcept (hw : ∀ w, R w → G w w) (view : World → Except Error α) :
    Guarantees R G (fun _ => True) (ExceptT.mk (Routine.read view)) :=
  .act _ _ hw fun _ _ => .done _ (either_true _)

theorem guarantees_tell (hw : ∀ w, R w → G w w) (event : Event) :
    Guarantees R G (fun _ => True) (Trial.tell event) :=
  .note event _ hw (.done _ True.intro)

theorem guarantees_modify (change : World → World) (h : ∀ w, R w → G w (change w)) :
    Guarantees R G (fun _ => True) (Trial.modify change) :=
  .act change _ h fun _ _ => .done _ True.intro

theorem guarantees_update (Q : α → Prop) (change : World → α × World)
    (h : ∀ w, R w → Q (change w).1 ∧ G w (change w).2) :
    Guarantees R G Q (ExceptT.lift (Routine.update change)) :=
  .act _ _ (fun w hw => (h w hw).2) fun w hw => .done _ (h w hw).1

theorem guarantees_ofExcept (result : Except Error α) :
    Guarantees R G (fun _ => True) (Trial.ofExcept result) :=
  .done result (either_true result)

theorem guarantees_mapError (f : Error → Error) (trial : Trial α)
    (h : Guarantees R G (fun _ => True) trial) :
    Guarantees R G (fun _ => True) (Trial.mapError f trial) := by
  have hm : (Trial.mapError f trial).run =
      trial.run.bind fun r => Routine.done (r.mapError f) := rfl
  rw [Guarantees, hm]
  exact Routine.guarantees_bind R G _ _ trial.run _ h fun _ _ => .done _ (either_true _)

end Trial
end ApiTrial
