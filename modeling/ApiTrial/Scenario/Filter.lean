import ApiTrial.Scenario.Definition
import ApiTrial.Text.Case
import ApiTrial.Text.Occurs

/-!
Scenarios chosen by a part of their name or by one of their tags, without regard to case.
-/
namespace ApiTrial

/-- The filter occurs in the name of a scenario, or is one of its tags. -/
def Scenario.matchesFilter (scenario : Scenario) (filter : String) : Bool :=
  let filter := Text.lower filter
  Text.occurs filter (Text.lower scenario.name) ||
    scenario.tags.any fun tag => Text.lower tag == filter

end ApiTrial
