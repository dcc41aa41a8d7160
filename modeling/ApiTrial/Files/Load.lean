import ApiTrial.Files.Basic
import ApiTrial.Fixture.Recipe
import ApiTrial.Scenario.Decode
import ApiTrial.Scenario.Suite

/-!
Scenarios and recipes read from files.
-/
namespace ApiTrial.Files

def scenario (files : Files) (path : String) : Except Error LoadedScenario := do
  return ⟨some path, ← Scenario.parse (← files.readText path) path⟩

/-- The scenarios in all files that some roots stand for. -/
def scenarios (files : Files) (roots : List String) : Except Error (List LoadedScenario) := do
  (← files.yamlFiles roots).mapM files.scenario

def recipes (files : Files) (directory : String) : Except Error (List Recipe) := do
  (← files.yamlFiles [directory]).mapM fun path => do
    Recipe.parse (← files.readText path) path

end ApiTrial.Files
