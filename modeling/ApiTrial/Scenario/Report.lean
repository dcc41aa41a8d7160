import ApiTrial.Scenario.Exchange
import ApiTrial.Scenario.Verdict

/-!
Reports of runs. A scenario has passed if no phase failed and every assertion held; what goes wrong
in teardown is told but does not count.
-/
namespace ApiTrial

/-- The phase that a run could not complete, and why. -/
structure PhaseFailure where
  phase : Phase
  error : Error
  deriving DecidableEq, Repr

/-- What was seen of one run. The duration is in milliseconds. -/
structure Report where
  name : String
  path : Option String := none
  trace : List Phase := []
  failure : Option PhaseFailure := none
  verdicts : List Verdict := []
  exchanges : List Exchange := []
  teardownErrors : List String := []
  duration : Nat := 0

namespace Report

/-- No phase failed and every assertion held. -/
def passed (report : Report) : Bool :=
  report.failure.isNone && report.verdicts.all Verdict.passed

/-- The verdicts on the assertions that did not hold. -/
def failedVerdicts (report : Report) : List Verdict :=
  report.verdicts.filter fun v => !v.passed

/-- The verdict on the first assertion of a name. -/
def verdict? (report : Report) (name : String) : Option Verdict :=
  report.verdicts.find? fun v => v.name == name

/-- A run without a failed phase has passed if no verdict is a failure. -/
theorem passed_iff {report : Report} :
    report.passed = true ↔ report.failure = none ∧ report.failedVerdicts = [] := by
  simp [passed, failedVerdicts, List.filter_eq_nil_iff]

end Report

/-- The reports of a suite, in the order of its scenarios. The duration is in milliseconds. -/
structure SuiteReport where
  reports : List Report
  duration : Nat := 0

namespace SuiteReport

/-- The reports of scenarios that did not pass. -/
def failures (suite : SuiteReport) : List Report := suite.reports.filter fun r => !r.passed

def passed (suite : SuiteReport) : Nat := suite.reports.countP Report.passed

def failed (suite : SuiteReport) : Nat := suite.reports.length - suite.passed

def allPassed (suite : SuiteReport) : Bool := suite.reports.all Report.passed

end SuiteReport

end ApiTrial
