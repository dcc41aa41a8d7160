import ApiTrial.Routine.Run
import Mathlib.Data.List.Forall2

/-! Lanes side by side, told turn by turn. A turn is one step of one lane in the world that it
finds, and the turns of a run lead from the world of the start to that of the end. What a single
lane did is read off its own turns: they carry its routine through to its result, whatever the other
lanes did in between. -/
namespace ApiTrial.Routine

variable {α β : Type}

structure Turn where
  lane : Nat
  before : World
  after : World

def Works (routine : Routine α) : Prop := ∀ a, routine ≠ .done a

theorem works_or_done (routine : Routine α) : routine.Works ∨ ∃ a, routine = .done a := by
  cases routine with
  | done a => exact Or.inr ⟨a, rfl⟩
  | act | send | pause | note => exact Or.inl nofun

/-- What holds of a routine with nothing left to do, and of one whose first step leads to where it
holds, holds of every routine. -/
theorem step_induction (network : Network) (P : Routine α → World → Prop)
    (hdone : ∀ a world, P (.done a) world)
    (hstep : ∀ routine world, routine.Works →
      P (step network routine world).1 (step network routine world).2 → P routine world)
    (routine : Routine α) (world : World) : P routine world := by
  induction routine generalizing world with
  | done a => exact hdone a world
  | act change next ih => exact hstep _ world nofun (ih _ _)
  | send request patience next ih => exact hstep _ world nofun (ih _ _)
  | pause time next ih => exact hstep _ world nofun (ih _)
  | note event next ih => exact hstep _ world nofun (ih _)

theorem step_bind (network : Network) (routine : Routine α) (f : α → Routine β) (world : World)
    (h : routine.Works) : step network (routine.bind f) world =
      ((step network routine world).1.bind f, (step network routine world).2) := by
  cases routine with
  | done a => exact absurd rfl (h a)
  | act | send | pause | note => rfl

section Interleaving
variable (network : Network)

inductive Interleaves : List (Routine α) → World → List Turn → List α → World → Prop
  | done (results : List α) (world : World) :
      Interleaves (results.map .done) world [] results world
  | turn (lanes : List (Routine α)) (world : World) (lane : Nat) (routine : Routine α)
      (turns : List Turn) (results : List α) (final : World) (hlane : lanes[lane]? = some routine)
      (hworks : routine.Works)
      (hrest : Interleaves (lanes.set lane (step network routine world).1)
        (step network routine world).2 turns results final) :
      Interleaves lanes world (⟨lane, world, (step network routine world).2⟩ :: turns) results final

/-- Lanes that are finished one by one. -/
theorem exists_interleaves_runAll (finished : List α) (lanes : List (Routine α)) (world : World) :
    ∃ turns, Interleaves network (finished.map .done ++ lanes) world turns
      (finished ++ (runAll network lanes world).1) (runAll network lanes world).2 := by
  induction lanes generalizing finished world with
  | nil =>
    refine ⟨[], ?_⟩
    simp only [List.append_nil, runAll]
    exact .done finished world
  | cons routine rest ih =>
    refine step_induction network (fun routine world =>
      ∃ turns, Interleaves network (finished.map .done ++ routine :: rest) world turns
        (finished ++ (runAll network (routine :: rest) world).1)
        (runAll network (routine :: rest) world).2) ?_ ?_ routine world
    · intro a world
      obtain ⟨turns, h⟩ := ih (finished ++ [a]) world
      refine ⟨turns, ?_⟩
      simpa only [List.map_append, List.map_cons, List.map_nil, List.append_assoc,
        List.singleton_append, runAll, run] using h
    · intro routine world hworks h
      obtain ⟨turns, h⟩ := h
      have hlane : (finished.map Routine.done ++ routine :: rest)[finished.length]? =
          some routine := by
        rw [List.getElem?_append_right (by simp)]
        simp
      have hset : (finished.map Routine.done ++ routine :: rest).set finished.length
          (step network routine world).1 =
            finished.map Routine.done ++ (step network routine world).1 :: rest := by
        rw [List.set_append_right _ _ (by simp)]
        simp
      have hrun : runAll network ((step network routine world).1 :: rest)
          (step network routine world).2 = runAll network (routine :: rest) world := by
        simp only [runAll, run_step]
      rw [hrun, ← hset] at h
      exact ⟨_, .turn _ world finished.length routine turns _ _ hlane hworks h⟩

/-- A run in lanes is an interleaving of the lanes, whatever the schedule. -/
theorem exists_interleaves (schedule : List Nat) (lanes : List (Routine α)) (world : World) :
    ∃ turns, Interleaves network lanes world turns (runLanes network schedule lanes world).1
      (runLanes network schedule lanes world).2 := by
  induction schedule generalizing lanes world with
  | nil => exact exists_interleaves_runAll network [] lanes world
  | cons lane schedule ih =>
    rw [runLanes]
    cases hlane : lanes[lane]? with
    | none => exact ih lanes world
    | some routine =>
      obtain ⟨turns, h⟩ := ih (lanes.set lane (step network routine world).1)
        (step network routine world).2
      rcases works_or_done routine with hworks | ⟨a, rfl⟩
      · exact ⟨_, .turn lanes world lane routine turns _ _ hlane hworks h⟩
      · -- A lane that has its result makes no step.
        have hset : lanes.set lane (.done a) = lanes := by
          obtain ⟨hl, hx⟩ := List.getElem?_eq_some_iff.mp hlane
          rw [← hx, List.set_getElem_self]
        have hsame : step network (.done a : Routine α) world = (.done a, world) := rfl
        rw [hsame, hset] at h
        exact ⟨turns, by simpa only [hsame, hset] using h⟩

/-- Every interleaving is the run of the schedule that names its lanes one by one. -/
theorem runLanes_of_interleaves (lanes : List (Routine α)) (world final : World)
    (turns : List Turn) (results : List α)
    (h : Interleaves network lanes world turns results final) :
    runLanes network (turns.map Turn.lane) lanes world = (results, final) := by
  induction h with
  | done results world =>
    rw [List.map_nil, runLanes]
    induction results with
    | nil => rfl
    | cons a rest ih => simp only [List.map_cons, runAll, run, ih]
  | turn lanes world lane routine turns results final hlane hworks hrest ih =>
    rw [List.map_cons, runLanes, hlane]
    exact ih

def Linked (start : World) : List Turn → World → Prop
  | [], final => final = start
  | turn :: turns, final => turn.before = start ∧ Linked turn.after turns final

theorem linked_of_interleaves (lanes : List (Routine α)) (world final : World) (turns : List Turn)
    (results : List α) (h : Interleaves network lanes world turns results final) :
    Linked world turns final := by
  induction h with
  | done results world => rfl
  | turn lanes world lane routine turns results final hlane hworks hrest ih => exact ⟨rfl, ih⟩

inductive Takes : Routine α → List Turn → α → Prop
  | done (a : α) : Takes (.done a) [] a
  | turn (routine : Routine α) (turn : Turn) (turns : List Turn) (a : α) (hworks : routine.Works)
      (hafter : turn.after = (step network routine turn.before).2)
      (hrest : Takes (step network routine turn.before).1 turns a) : Takes routine (turn :: turns) a

theorem eq_of_takes_done (a b : α) (turns : List Turn) (h : Takes network (.done a) turns b) :
    turns = [] ∧ b = a := by
  cases h with
  | done => exact ⟨rfl, rfl⟩
  | turn _ _ _ _ hworks => exact absurd rfl (hworks a)

theorem takes_cons (routine : Routine α) (turn : Turn) (turns : List Turn) (a : α)
    (h : Takes network routine (turn :: turns) a) :
    turn.after = (step network routine turn.before).2 ∧
      Takes network (step network routine turn.before).1 turns a := by
  cases h with
  | turn _ _ _ _ _ hafter hrest => exact ⟨hafter, hrest⟩

/-- The turns of a lane carry its routine to its result. -/
theorem takes_of_interleaves (lanes : List (Routine α)) (world final : World) (turns : List Turn)
    (results : List α) (lane : Nat) (routine : Routine α)
    (h : Interleaves network lanes world turns results final) (hl : lanes[lane]? = some routine) :
    ∃ a, results[lane]? = some a ∧
      Takes network routine (turns.filter fun turn => turn.lane == lane) a := by
  induction h generalizing routine with
  | done results world =>
    rw [List.getElem?_map] at hl
    obtain ⟨a, ha, rfl⟩ := Option.map_eq_some_iff.mp hl
    exact ⟨a, ha, .done a⟩
  | turn lanes world other current turns results final hother hworks hrest ih =>
    by_cases he : other = lane
    · subst he
      cases hother.symm.trans hl
      have hlt := (List.getElem?_eq_some_iff.mp hl).1
      obtain ⟨a, ha, ht⟩ := ih _ (List.getElem?_set_self hlt)
      refine ⟨a, ha, ?_⟩
      rw [List.filter_cons_of_pos (by simp)]
      exact .turn current _ _ a hworks rfl ht
    · obtain ⟨a, ha, ht⟩ := ih routine (by rw [List.getElem?_set_ne he, hl])
      refine ⟨a, ha, ?_⟩
      rwa [List.filter_cons_of_neg (by simpa using he)]

theorem lane_lt_of_interleaves (lanes : List (Routine α)) (world final : World) (turns : List Turn)
    (results : List α) (h : Interleaves network lanes world turns results final) :
    ∀ turn ∈ turns, turn.lane < lanes.length := by
  induction h with
  | done results world => exact nofun
  | turn lanes world lane routine turns results final hlane hworks hrest ih =>
    rw [List.length_set] at ih
    exact List.forall_mem_cons.mpr ⟨(List.getElem?_eq_some_iff.mp hlane).1, ih⟩

/-- A routine that is run alone takes turns as well. -/
theorem exists_takes_run (routine : Routine α) (world : World) :
    ∃ turns, Takes network routine turns (run network routine world).1 := by
  refine step_induction network (fun routine world =>
    ∃ turns, Takes network routine turns (run network routine world).1) ?_ ?_ routine world
  · exact fun a world => ⟨[], .done a⟩
  · intro routine world hworks h
    obtain ⟨turns, ht⟩ := h
    rw [run_step] at ht
    exact ⟨⟨0, world, (step network routine world).2⟩ :: turns,
      .turn routine _ turns _ hworks rfl ht⟩

/-- A routine in two parts takes the turns of the first and then those of the second. -/
theorem takes_bind (routine : Routine α) (f : α → Routine β) (turns : List Turn) (b : β)
    (h : Takes network (routine.bind f) turns b) :
    ∃ a first second, turns = first ++ second ∧ Takes network routine first a ∧
      Takes network (f a) second b := by
  induction turns generalizing routine with
  | nil =>
    rcases works_or_done routine with hworks | ⟨a, rfl⟩
    · cases routine with
      | done a => exact absurd rfl (hworks a)
      | act | send | pause | note => cases h
    · exact ⟨a, [], [], rfl, .done a, h⟩
  | cons turn turns ih =>
    rcases works_or_done routine with hworks | ⟨a, rfl⟩
    · obtain ⟨hafter, hrest⟩ := takes_cons network _ turn turns b h
      rw [step_bind network routine f turn.before hworks] at hafter hrest
      obtain ⟨a, first, second, rfl, hfirst, hsecond⟩ := ih _ hrest
      exact ⟨a, turn :: first, second, rfl, .turn routine turn first a hworks hafter hfirst,
        hsecond⟩
    · exact ⟨a, [], turn :: turns, rfl, .done a, h⟩

end Interleaving

end ApiTrial.Routine
