import ApiTrial.Decimal.Fixed
import ApiTrial.Scenario.Check
import ApiTrial.Scenario.Report
import ApiTrial.Text.Painted

/-!
Reports as text for a terminal.
-/
namespace ApiTrial

open Text (Ink paint shortened)

namespace Console

/-- How reports are shown: with colours or without, and with every exchange or only those of failed
scenarios. -/
structure Look where
  colours : Bool := false
  verbose : Bool := false

/-- A text in a colour, if there are colours. -/
def Look.ink (look : Look) (ink : Ink) (text : String) : String := paint look.colours ink text

/-- The mark of what went well. -/
def good : String := "✓"

/-- The mark of what went wrong. -/
def bad : String := "✗"

/-- The characters of a body that are shown. -/
def shownBody : Nat := 300

def statusInk (status : Nat) : Ink :=
  if 200 ≤ status ∧ status ≤ 399 then .green
  else if 400 ≤ status ∧ status ≤ 499 then .yellow
  else .red

def verdictLines (look : Look) (verdict : Verdict) : List String :=
  if verdict.passed then [s!"  {look.ink .green good} {verdict.name}"]
  else s!"  {look.ink .red bad} {verdict.name}" ::
    verdict.message.toList.map fun message => s!"      {look.ink .red message}"

def exchangeLines (look : Look) (e : Exchange) : List String :=
  let phase := look.ink .dimmed s!"[{e.phase.word}]"
  let label := look.ink .dimmed e.label
  let status := look.ink (statusInk e.status) (toString e.status)
  let shown (text : String) : String := look.ink .dimmed (shortened shownBody text)
  let details :=
    e.requestBody.toList.map (fun body => s!"      > {shown body}") ++
    e.etag.toList.map (fun etag => s!"      < etag: {look.ink .dimmed etag}") ++
    (if e.responseBody.isEmpty then [] else [s!"      < {shown e.responseBody}"])
  s!"    {phase} {label} {e.method} {e.url} {status}" :: if look.verbose then details else []

/-- The last line of a report. -/
def outcomeLine (look : Look) (report : Report) : String :=
  let (ink, mark, word) :=
    if report.passed then (Ink.boldGreen, good, "Passed") else (Ink.boldRed, bad, "Failed")
  s!"  {look.ink ink mark} {look.ink ink word} ({report.duration} ms)"

def reportLines (look : Look) (report : Report) : List String :=
  let title := look.ink .boldBlue "Scenario:"
  let caution := look.ink .yellow "!"
  ["", s!"{title} {look.ink .boldWhite report.name}"] ++
    report.path.toList.map (fun path => s!"  {look.ink .dimmed path}") ++
    report.failure.toList.map (fun failure =>
      s!"  {look.ink .red bad} {failure.phase.word} failed: {failure.error.message}") ++
    report.verdicts.flatMap (verdictLines look) ++
    report.teardownErrors.map (fun e =>
      s!"  {caution} teardown: {look.ink .yellow e}") ++
    (if look.verbose || !report.passed then report.exchanges.flatMap (exchangeLines look)
      else []) ++
    [outcomeLine look report]

def summaryLines (look : Look) (suite : SuiteReport) : List String :=
  let seconds := secondsText suite.duration
  if suite.failures.isEmpty then
    ["", s!"{look.ink .boldGreen good} {suite.reports.length} scenarios passed ({seconds}s)"]
  else
    ["", look.ink .boldRed "Failed scenarios:"] ++
      suite.failures.map (fun r => s!"  {look.ink .red bad} {r.name}") ++
      ["", s!"{look.ink .green (toString suite.passed)} passed, " ++
        s!"{look.ink .red (toString suite.failed)} failed ({seconds}s)"]

def suiteLines (look : Look) (suite : SuiteReport) : List String :=
  suite.reports.flatMap (reportLines look) ++ summaryLines look suite

/-- The line of a check without findings. -/
def soundLine (look : Look) (count : Nat) : String :=
  s!"{look.ink .green good} {count} scenarios OK"

def findingLine (look : Look) (finding : Finding) : String :=
  s!"  {look.ink .red bad} {finding.display}"

def fixtureLines (look : Look) (fixture : Fixture) : List String :=
  [look.ink .bold fixture.name] ++
    (if fixture.description.isEmpty then []
      else [s!"  {look.ink .dimmed fixture.description}"]) ++
    (if fixture.requires.isEmpty then []
      else ["  requires: " ++ ", ".intercalate fixture.requires]) ++
    ["  outputs:  " ++ ", ".intercalate fixture.outputs]

/-- The lines of a fixture that was built. -/
def outputLines (look : Look) (name : String) (outputs : Fixture.Outputs) : List String :=
  s!"{look.ink .green good} {look.ink .bold name}" ::
    outputs.map fun (key, value) => s!"  {key} = {value.splice}"

def text (lines : List String) : String := String.join (lines.map (· ++ "\n"))

end Console

end ApiTrial
