import ApiTrial.Fixture.Together
import ApiTrial.Proofs.LaneTurns
import ApiTrial.Proofs.RoutineOutcome

/-! A caller that builds alone. What a caller does with the next call of its plan is told by cases,
with all that each case goes with, so that nothing else has to open the definition. With no build of
another one under way, a caller comes step by step to what the plain build of its call comes to:
sharing builds changes nothing for whoever has nobody to share with. -/
namespace ApiTrial
namespace Fixture

section Advancing
variable (registry : Registry) (client : Client) (others : List String)

/-- What a caller does with the next call of its plan. It waits if the call is being built for
another; it ends if the call cannot be built at all, or fails at once; it goes on if the call is
built at once; else the call is now being built for it. -/
theorem advance_cons (caller : Caller) (call : Call) (rest : List Call) (world : World) :
    let key := Caller.shareKey (world.store.path caller.scope) call
    let result := caller.advance registry client others (call :: rest) world
    (key ∈ others ∧
      result = ({ caller with ahead := call :: rest, standing := .waiting key }, world)) ∨
    (key ∉ others ∧ ((∃ e, registry.get call.name = .error e ∧
        result = (caller.finish (.error e), world)) ∨
      ∃ fixture, registry.get call.name = .ok fixture ∧
        ((∃ e, fixture.inherited call caller.built = .error e ∧
          result = (caller.finish (.error e), world)) ∨
        ∃ inherited, fixture.inherited call caller.built = .ok inherited ∧
          let left := (buildOne client caller.scope fixture call inherited).run.untilWait world
          ((∃ e, left.1 = .done (.error e) ∧
            result = (caller.finish (.error e), left.2)) ∨
          (∃ outputs, left.1 = .done (.ok outputs) ∧
            result = Caller.advance registry client others
              { caller with
                ahead := call :: rest, built := caller.built ++ [(call, outputs)] } rest left.2) ∨
          (left.1.Works ∧ result =
            ({ caller with ahead := call :: rest, standing := .building key left.1 },
              left.2)))))) := by
  intro key result
  have hresult : result = caller.advance registry client others (call :: rest) world := rfl
  rw [Caller.advance] at hresult
  by_cases hk : key ∈ others
  · have hc : others.contains key = true := List.contains_iff_mem.mpr hk
    exact Or.inl ⟨hk, hresult.trans (if_pos hc)⟩
  refine Or.inr ⟨hk, ?_⟩
  have hc : ¬ others.contains key = true := fun h => hk (List.contains_iff_mem.mp h)
  replace hresult := hresult.trans (if_neg hc)
  cases hg : registry.get call.name with
  | error e =>
    rw [hg] at hresult
    exact Or.inl ⟨e, rfl, hresult⟩
  | ok fixture =>
    rw [hg] at hresult
    refine Or.inr ⟨fixture, rfl, ?_⟩
    cases hi : fixture.inherited call caller.built with
    | error e =>
      simp only [hi] at hresult
      exact Or.inl ⟨e, rfl, hresult⟩
    | ok inherited =>
      simp only [hi] at hresult
      refine Or.inr ⟨inherited, rfl, ?_⟩
      intro left
      rcases hl : left with ⟨routine, after⟩
      have hl' : (buildOne client caller.scope fixture call inherited).run.untilWait world =
          (routine, after) := hl
      rw [hl'] at hresult
      cases routine with
      | done r =>
        cases r with
        | error e => exact Or.inl ⟨e, rfl, hresult⟩
        | ok outputs => exact Or.inr (Or.inl ⟨outputs, rfl, hresult⟩)
      | act change next => exact Or.inr (Or.inr ⟨nofun, hresult⟩)
      | send request patience next => exact Or.inr (Or.inr ⟨nofun, hresult⟩)
      | pause time next => exact Or.inr (Or.inr ⟨nofun, hresult⟩)
      | note event next => exact Or.inr (Or.inr ⟨nofun, hresult⟩)

theorem length_ahead_advance (caller : Caller) (plan : List Call) (world : World) :
    (caller.advance registry client others plan world).1.ahead.length ≤ plan.length := by
  induction plan generalizing caller world with
  | nil => exact Nat.le_refl 0
  | cons call rest ih =>
    rcases advance_cons registry client others caller call rest world with
      ⟨-, h⟩ | ⟨-, ⟨e, -, h⟩ | ⟨fixture, -, ⟨e, -, h⟩ | ⟨inherited, -,
        ⟨e, -, h⟩ | ⟨outputs, -, h⟩ | ⟨-, h⟩⟩⟩⟩
    · exact h ▸ Nat.le_refl _
    · exact h ▸ Nat.zero_le _
    · exact h ▸ Nat.zero_le _
    · exact h ▸ Nat.zero_le _
    · exact h ▸ Nat.le_succ_of_le (ih _ _)
    · exact h ▸ Nat.le_refl _

end Advancing

section Alone
variable (registry : Registry) (client : Client) (network : Network)

def concluded (scope : ScopeId) (call : Call) (built : Built) (plan : List Call) :
    Trial Outputs := do
  let built ← buildRest registry client scope built plan
  Trial.modify (commit scope built)
  Trial.ofExcept ((requested [call] built).bind (single call))

/-- Building a call is making its plan and coming to its end. -/
theorem buildCall_eq (scope : ScopeId) (call : Call) : buildCall registry client scope call =
    Trial.ofExcept (registry.plan [call]) >>= concluded registry client scope call [] := by
  have hlast (built : Built) : (Trial.ofExcept (requested [call] built) >>= fun outputs =>
      Trial.ofExcept (single call outputs)) =
        Trial.ofExcept ((requested [call] built).bind (single call)) := by
    cases requested [call] built <;> rfl
  simp only [buildCall, buildAll, bind_assoc, hlast]
  rfl

theorem concluded_cons (scope : ScopeId) (call next : Call) (built : Built) (rest : List Call) :
    concluded registry client scope call built (next :: rest) =
      (do
        let fixture ← Trial.ofExcept (registry.get next.name)
        let inherited ← Trial.ofExcept (fixture.inherited next built)
        let outputs ← buildOne client scope fixture next inherited
        concluded registry client scope call (built ++ [(next, outputs)]) rest) := by
  simp only [concluded, buildRest, bind_assoc]

/-- Callers that have ended stay as they are. -/
theorem finishAll_of_ended (rounds : Nat) (callers : List Caller) (world : World)
    (h : ∀ caller ∈ callers, ∃ outcome, caller.standing = .ended outcome) :
    finishAll registry client network rounds callers world = (callers, world) := by
  cases rounds with
  | zero => rfl
  | succ rounds =>
    have hnone : firstUnderway? callers = none := by
      rw [firstUnderway?, List.findSome?_eq_none_iff]
      intro caller hm
      obtain ⟨outcome, hs⟩ := h caller hm
      rw [hs]
    rw [finishAll, hnone]

def EndsAs (rounds : Nat) (start : Caller × World) (result : Except Error Outputs × World) : Prop :=
  ∃ ended, finishAll registry client network rounds [start.1] start.2 = ([ended], result.2) ∧
    ended.standing = .ended result.1

theorem endsAs_of_ended (rounds : Nat) (caller : Caller) (outcome : Except Error Outputs)
    (world : World) (h : caller.standing = .ended outcome) :
    EndsAs registry client network rounds (caller, world) (outcome, world) := by
  have hall : ∀ other ∈ [caller], ∃ outcome, other.standing = .ended outcome :=
    List.forall_mem_singleton.mpr ⟨outcome, h⟩
  exact ⟨caller, finishAll_of_ended registry client network rounds [caller] world hall, h⟩

theorem isAt_of_building (caller : Caller) (key : String)
    (routine : Routine (Except Error Outputs)) (h : caller.standing = .building key routine) :
    caller.isAt key = true := by
  rw [Caller.isAt, h]
  exact beq_self_eq_true key

/-- A round hands the outcome of a build to the caller that it is for. -/
theorem endsAs_of_building (rounds : Nat) (caller : Caller) (key : String)
    (routine : Routine (Except Error Outputs)) (world : World)
    (result : Except Error Outputs × World) (h : caller.standing = .building key routine)
    (hnext : EndsAs registry client network rounds (caller.receive registry client []
      (routine.run network world).1 (routine.run network world).2) result) :
    EndsAs registry client network (rounds + 1) (caller, world) result := by
  have hfirst : firstUnderway? [caller] = some (key, routine) := by
    rw [firstUnderway?, List.findSome?_cons, h]
  have hat := isAt_of_building caller key routine h
  rw [EndsAs, finishAll, hfirst]
  simp only [handOut, hat, if_true]
  exact hnext

/-- A caller that is alone comes to what building its call comes to. -/
theorem endsAs_advance (caller : Caller) (plan : List Call) (world : World) (rounds : Nat)
    (h : (caller.advance registry client [] plan world).1.ahead.length ≤ rounds) :
    EndsAs registry client network rounds (caller.advance registry client [] plan world)
      ((concluded registry client caller.scope caller.call caller.built plan).exec network
        world) := by
  induction plan generalizing caller world rounds with
  | nil => exact endsAs_of_ended registry client network rounds _ _ _ rfl
  | cons next rest ih =>
    rw [concluded_cons]
    rcases advance_cons registry client [] caller next rest world with
      ⟨hk, -⟩ | ⟨-, ⟨e, hg, hs⟩ | ⟨fixture, hg, ⟨e, hi, hs⟩ | ⟨inherited, hi, hcases⟩⟩⟩
    · exact absurd hk List.not_mem_nil
    · rw [hs, hg, Trial.exec_bind_of_error _ _ _ _ _ _ rfl]
      exact endsAs_of_ended registry client network rounds _ _ _ rfl
    · rw [hs, hg, Trial.exec_bind_of_ok _ _ _ _ world fixture rfl, hi,
        Trial.exec_bind_of_error _ _ _ _ _ _ rfl]
      exact endsAs_of_ended registry client network rounds _ _ _ rfl
    rw [hg, Trial.exec_bind_of_ok _ _ _ _ world fixture rfl, hi,
      Trial.exec_bind_of_ok _ _ _ _ world inherited rfl]
    let build := buildOne client caller.scope fixture next inherited
    have hbuild : (build.run.untilWait world).1.run network (build.run.untilWait world).2 =
        build.exec network world := Routine.run_untilWait network build.run world
    rcases hcases with ⟨e, hl, hs⟩ | ⟨outputs, hl, hs⟩ | ⟨-, hs⟩
    · rw [hl] at hbuild
      rw [hs, Trial.exec_bind_of_error _ _ _ _ _ _ hbuild.symm]
      exact endsAs_of_ended registry client network rounds _ _ _ rfl
    · rw [hl] at hbuild
      rw [hs] at h ⊢
      rw [Trial.exec_bind_of_ok _ _ _ _ _ outputs hbuild.symm]
      exact ih _ _ rounds h
    · rw [hs] at h ⊢
      have hpos : 0 < rounds := Nat.lt_of_lt_of_le (Nat.succ_pos rest.length) h
      obtain ⟨more, rfl⟩ := Nat.exists_eq_add_of_le' hpos
      refine endsAs_of_building registry client network more _ _ _ _ _ rfl ?_
      rw [hbuild]
      rcases hx : build.exec network world with ⟨outcome, reached⟩
      cases outcome with
      | error e =>
        rw [Trial.exec_bind_of_error _ _ _ _ _ _ hx]
        exact endsAs_of_ended registry client network more _ _ _ rfl
      | ok outputs =>
        rw [Trial.exec_bind_of_ok _ _ _ _ reached outputs hx]
        refine ih _ reached more (Nat.le_trans ?_ (Nat.succ_le_succ_iff.mp h))
        exact length_ahead_advance registry client [] _ rest reached

theorem endsAs_start (scope : ScopeId) (call : Call) (world : World) :
    let start := Caller.start registry client [] scope call world
    EndsAs registry client network start.1.ahead.length start
      ((buildCall registry client scope call).exec network world) := by
  intro start
  have hstart : start = Caller.start registry client [] scope call world := rfl
  rw [Caller.start] at hstart
  rw [buildCall_eq]
  cases hp : registry.plan [call] with
  | error e =>
    rw [hp] at hstart
    rw [hstart, Trial.exec_bind_of_error _ _ _ _ _ _ rfl]
    exact endsAs_of_ended registry client network _ _ _ _ rfl
  | ok plan =>
    rw [hp] at hstart
    rw [hstart, Trial.exec_bind_of_ok _ _ _ _ world plan rfl]
    exact endsAs_advance registry client network _ plan world _ (Nat.le_refl _)

theorem outcome_of_ended (caller : Caller) (outcome : Except Error Outputs)
    (h : caller.standing = .ended outcome) : caller.outcome = outcome := by
  rw [Caller.outcome, h]

/-- Building for one caller is building its call. -/
theorem buildTogether_alone (scope : ScopeId) (call : Call) (world : World) :
    let result := (buildCall registry client scope call).exec network world
    buildTogether registry client network [(scope, call)] world = ([result.1], result.2) := by
  intro result
  let start := Caller.start registry client [] scope call world
  let final := finishAll registry client network start.1.ahead.length [start.1] start.2
  have htogether : buildTogether registry client network [(scope, call)] world =
      (final.1.map Caller.outcome, final.2) := by
    simp [buildTogether, startAll, final, start]
  obtain ⟨ended, hfinal, hstanding⟩ := endsAs_start registry client network scope call world
  rw [htogether, show final = _ from hfinal, List.map_singleton,
    outcome_of_ended ended _ hstanding]

end Alone

end Fixture
end ApiTrial
