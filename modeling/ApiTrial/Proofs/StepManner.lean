import ApiTrial.Scenario.Run

/-! Setup and the actions carry out their steps in the same way. They differ in the words that they
use and in what they want of a response, so what holds of one manner holds of both phases. -/
namespace ApiTrial.Scenario

structure Manner where
  phase : Phase
  word : String
  complaint? : String → RequestStep → Response → Option Error
  refusal : String → Error → Error

namespace Manner

def setup : Manner where
  phase := .setup
  word := "setup"
  complaint? label step response :=
    if (expectation step).meets response.status then none
    else some (.fixtureFailed label s!"{returned response}, expected {(expectation step).display}")
  refusal label e := .fixtureFailed label e.message

def acting : Manner where
  phase := .acting
  word := "action"
  complaint? _ _ _ := none
  refusal _ e := e

theorem setup_complaint?_eq_none_iff (label : String) (step : RequestStep) (response : Response) :
    setup.complaint? label step response = none ↔
      (expectation step).meets response.status = true := by
  show (if (expectation step).meets response.status then none else some _) = none ↔ _
  split <;> simp [*]

variable (manner : Manner) (client : Client) (retry : RetryPolicy) (scope : ScopeId)

def carryOut (index : Nat) (step : RequestStep) : Trial Labelled := do
  let label := step.label manner.word index
  let response ← Trial.mapError (manner.refusal label) (client.executeWith retry step.request scope)
  Trial.tell (.exchanged (Exchange.ofResponse manner.phase label response))
  match manner.complaint? label step response with
  | none => do
    capture scope step response
    return { label, response }
  | some e => throw e

def carryAll : Nat → List RequestStep → Trial (List Labelled)
  | _, [] => pure []
  | index, step :: rest => do
    let labelled ← manner.carryOut client retry scope index step
    let others ← carryAll (index + 1) rest
    return labelled :: others

theorem runSetupStep_eq (index : Nat) (step : RequestStep) :
    runSetupStep client retry scope index step =
      setup.carryOut client retry scope index step >>= fun _ => pure () := by
  rw [runSetupStep, carryOut, bind_assoc]
  congr 1
  funext response
  rw [bind_assoc]
  congr 1
  funext _
  by_cases h : (expectation step).meets response.status = true
  · simp [setup, h]
  · simp [setup, h]

theorem runSetup_eq (index : Nat) (steps : List RequestStep) :
    runSetup client retry scope index steps =
      setup.carryAll client retry scope index steps >>= fun _ => pure () := by
  induction steps generalizing index with
  | nil => rfl
  | cons step rest ih =>
    rw [runSetup, carryAll, runSetupStep_eq, bind_assoc, bind_assoc, ih]
    simp only [pure_bind, bind_assoc]

theorem runAction_eq (index : Nat) (step : RequestStep) :
    runAction client retry scope index step = acting.carryOut client retry scope index step := by
  have hsame : Trial.mapError (fun e => e) (client.executeWith retry step.request scope) =
      client.executeWith retry step.request scope := by
    have hid : (fun r : Except Error Response => r.mapError fun e => e) = id := by
      funext r
      cases r <;> rfl
    rw [Trial.mapError, hid, id_map]
    rfl
  rw [runAction, carryOut, acting, hsame]

theorem runActions_eq (index : Nat) (steps : List RequestStep) :
    runActions client retry scope index steps = acting.carryAll client retry scope index steps := by
  induction steps generalizing index with
  | nil => rfl
  | cons step rest ih =>
    rw [runActions, carryAll, runAction_eq]
    simp only [ih]

end Manner

end ApiTrial.Scenario
