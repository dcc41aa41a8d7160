import ApiTrial.Command.Run
import ApiTrial.Proofs.SuiteLanes

/-! The verdict of the run command. Whatever it needs is read before the suite begins, so a command
that cannot read all of it has sent nothing. Behind the suite it has failed exactly if a report has,
and it tells how many of how many. -/
namespace ApiTrial

def Report.hasFailed (report : Report) : Bool :=
  report.failure.isSome || report.verdicts.any fun verdict => !verdict.passed

theorem Report.hasFailed_eq (report : Report) : report.hasFailed = !report.passed := by
  rw [hasFailed, passed, Bool.not_and, Option.not_isNone, List.not_all_eq_any_not]

namespace SuiteReport
variable (suite : SuiteReport)

theorem failed_eq : suite.failed = suite.reports.countP Report.hasFailed := by
  have hcount := suite.reports.length_eq_countP_add_countP Report.passed
  have hsame : suite.reports.countP Report.hasFailed =
      suite.reports.countP fun report => decide (¬ report.passed = true) := by
    apply List.countP_congr
    intro report _
    rw [Report.hasFailed_eq]
    simp
  rw [failed, passed, hsame]
  omega

theorem allPassed_iff : suite.allPassed = true ↔ ∀ report ∈ suite.reports, report.passed = true :=
  List.all_eq_true

/-- If not all have passed, one at least has failed. -/
theorem failed_pos (h : ¬ suite.allPassed = true) :
    1 ≤ suite.reports.countP Report.hasFailed := by
  rw [allPassed_iff] at h
  simp only [not_forall] at h
  obtain ⟨report, hmem, hp⟩ := h
  apply List.countP_pos_iff.mpr
  refine ⟨report, hmem, ?_⟩
  rw [Report.hasFailed_eq, Bool.eq_false_of_not_eq_true hp]
  rfl

end SuiteReport

namespace Files
variable (files : Files)

def Yields {α : Type} (roots : List String) (Holds : String → String → α → Prop) (as : List α) :
    Prop :=
  ∃ found, files.yamlFiles roots = .ok found ∧ List.Forall₂ (fun path a =>
    ∃ text, files.readText path = .ok text ∧ Holds path text a) found as

theorem yields_iff {α : Type} (roots : List String) (Holds : String → String → α → Prop)
    (f : String → Except Error α)
    (hf : ∀ path a, f path = .ok a ↔ ∃ text, files.readText path = .ok text ∧ Holds path text a)
    (as : List α) :
    (files.yamlFiles roots >>= fun found => found.mapM f) = .ok as ↔
      files.Yields roots Holds as := by
  simp only [bind_eq_ok_iff, mapM_eq_ok_iff, hf, Yields]

/-- Scenarios are loaded exactly if each of the files found is read and parsed. -/
theorem scenarios_eq_ok_iff (roots : List String) (loaded : List LoadedScenario) :
    files.scenarios roots = .ok loaded ↔ files.Yields roots (fun path text s =>
      s.path = some path ∧ Scenario.parse text path = .ok s.scenario) loaded := by
  apply yields_iff
  intro path s
  rw [scenario, bind_eq_ok_iff]
  apply exists_congr
  intro text
  apply and_congr_right
  intro _
  rw [bind_eq_ok_iff]
  constructor
  · rintro ⟨read, hread, h⟩
    cases h
    exact ⟨rfl, hread⟩
  · obtain ⟨place, read⟩ := s
    rintro ⟨rfl, hread⟩
    exact ⟨read, hread, rfl⟩

theorem recipes_eq_ok_iff (directory : String) (recipes : List Recipe) :
    files.recipes directory = .ok recipes ↔ files.Yields [directory] (fun path text recipe =>
      Recipe.parse text path = .ok recipe) recipes := by
  apply yields_iff
  intro path recipe
  exact bind_eq_ok_iff _ _ _

end Files

namespace Command
variable (around : Surroundings) (connection : Connection) (paths : List String)

/-- What a run reads before it begins: a configuration, a recipe in each fixture file, if there is a
directory of them, and a scenario in each scenario file. -/
structure Loads (config : Config) (recipes : List Recipe) (loaded : List LoadedScenario) :
    Prop where
  config : Config.load around.files around.process around.usualConfig? connection.config =
    .ok config
  noRecipes : connection.fixtures = none → recipes = []
  recipes : ∀ directory, connection.fixtures = some directory → around.files.Yields [directory]
    (fun path text recipe => Recipe.parse text path = .ok recipe) recipes
  scenarios : around.files.Yields (scenarioPaths paths)
    (fun path text s => s.path = some path ∧ Scenario.parse text path = .ok s.scenario) loaded

def recipes : Except Error (List Recipe) :=
  match connection.fixtures with
  | some directory => around.files.recipes directory
  | none => .ok []

theorem connect_eq : Bench.connect around connection =
    Config.load around.files around.process around.usualConfig? connection.config >>=
      fun config => recipes around connection >>= fun recipes =>
        .ok (Bench.new (config.withServer connection.server) recipes) := by
  rw [Bench.connect, recipes]
  cases connection.fixtures with
  | none => rfl
  | some directory => rfl

/-- A run loads what the configuration, the recipes and the scenarios are read as. -/
theorem loads_iff (config : Config) (found : List Recipe) (loaded : List LoadedScenario) :
    Loads around connection paths config found loaded ↔
      Config.load around.files around.process around.usualConfig? connection.config = .ok config ∧
      recipes around connection = .ok found ∧
      around.files.scenarios (scenarioPaths paths) = .ok loaded := by
  rw [Files.scenarios_eq_ok_iff, recipes]
  cases hc : connection.fixtures with
  | none =>
    constructor
    · intro h
      exact ⟨h.config, congrArg _ (h.noRecipes hc).symm, h.scenarios⟩
    · rintro ⟨hconfig, hnone, hscenarios⟩
      refine ⟨hconfig, fun _ => (Except.ok.inj hnone).symm, ?_, hscenarios⟩
      intro directory hd
      cases hc.symm.trans hd
  | some directory =>
    constructor
    · intro h
      exact ⟨h.config, (Files.recipes_eq_ok_iff _ _ _).mpr (h.recipes directory hc), h.scenarios⟩
    · rintro ⟨hconfig, hrecipes, hscenarios⟩
      refine ⟨hconfig, fun hn => absurd (hc.symm.trans hn) (Option.some_ne_none _), ?_, hscenarios⟩
      intro other hd
      cases hc.symm.trans hd
      exact (Files.recipes_eq_ok_iff _ _ _).mp hrecipes

variable (colours : Bool) (filter : Option String) (parallel verbose : Bool)

/-- A run that has loaded what it needs does what is left, and no other run gets that far. -/
theorem execute_of_loads (config : Config) (found : List Recipe) (loaded : List LoadedScenario)
    (h : Loads around connection paths config found loaded) :
    execute around colours (.run paths connection filter parallel verbose) =
      if (Suite.filtered filter loaded).isEmpty then { lines := ["No scenarios to run"] }
      else runScenarios around (Bench.new (config.withServer connection.server) found)
        { colours, verbose } parallel (Suite.filtered filter loaded) := by
  obtain ⟨hconfig, hrecipes, hscenarios⟩ := (loads_iff around connection paths _ _ _).mp h
  rw [execute, connect_eq, hconfig]
  simp only [bind, Except.bind, hrecipes, hscenarios]
  split <;> rfl

/-- A run that cannot load something ends in an error and has sent nothing. -/
theorem execute_of_not_loads (h : ∀ config found loaded,
    ¬ Loads around connection paths config found loaded) :
    ∃ e, execute around colours (.run paths connection filter parallel verbose) =
      { result := .error e } := by
  rw [execute]
  cases hb : Bench.connect around connection with
  | error e => exact ⟨e, rfl⟩
  | ok bench =>
    cases hs : around.files.scenarios (scenarioPaths paths) with
    | error e => exact ⟨e, rfl⟩
    | ok loaded =>
      rw [connect_eq, bind_eq_ok_iff] at hb
      obtain ⟨config, hconfig, hb⟩ := hb
      obtain ⟨found, hrecipes, -⟩ := (bind_eq_ok_iff _ _ _).mp hb
      exact absurd ((loads_iff around connection paths _ _ _).mpr ⟨hconfig, hrecipes, hs⟩)
        (h config found loaded)

/-- A run that cannot read its configuration, a fixture file or a scenario file, those that its
filter drops among them, fails and has sent nothing. Any other run goes well exactly if no scenario
matches its filter or the report of each one that does has passed; otherwise it tells how many of
them failed in a phase or an assertion, which is at least one. -/
theorem run_verdict :
    let outcome := execute around colours (.run paths connection filter parallel verbose)
    ((∀ config found loaded, ¬ Loads around connection paths config found loaded) →
      (∃ e, outcome.result = .error e) ∧ outcome.world.sent = []) ∧
    ∀ config found loaded, Loads around connection paths config found loaded →
      let bench := Bench.new (config.withServer connection.server) found
      let scenarios := Suite.filtered filter loaded
      let ran := Suite.run bench.runner around.network (parallel || config.runner.parallel)
        scenarios Bench.scope bench.world around.schedule
      let failed := ran.1.reports.countP Report.hasFailed
      ran.1.reports.map (fun r => (r.name, r.path)) =
        scenarios.map (fun s => (s.scenario.name, s.path)) ∧
      (scenarios = [] → outcome.world.sent = []) ∧ (scenarios ≠ [] → outcome.world = ran.2) ∧
      (outcome.result = .ok () ↔
        scenarios = [] ∨ ∀ report ∈ ran.1.reports, report.passed = true) ∧
      (outcome.result ≠ .ok () → 1 ≤ failed ∧ outcome.result =
        .error (.assertionFailure s!"{failed} of {scenarios.length} scenarios failed")) := by
  intro outcome
  refine ⟨?_, ?_⟩
  · intro h
    obtain ⟨e, he⟩ := execute_of_not_loads around connection paths colours filter parallel verbose h
    have houtcome : outcome = { result := .error e } := he
    rw [houtcome]
    exact ⟨⟨e, rfl⟩, rfl⟩
  · intro config found loaded h bench scenarios ran failed
    have hnames := Suite.named_run bench.runner around.network around.schedule scenarios Bench.scope
      bench.world (parallel || config.runner.parallel)
    have hcount : ran.1.reports.length = scenarios.length := by
      simpa using congrArg List.length hnames
    have houtcome : outcome = if scenarios.isEmpty then { lines := ["No scenarios to run"] }
        else runScenarios around bench { colours, verbose } parallel scenarios :=
      execute_of_loads around connection paths colours filter parallel verbose config found loaded h
    refine ⟨hnames, ?_⟩
    by_cases hs : scenarios = []
    · have hdone : outcome = { lines := ["No scenarios to run"] } := by
        rw [houtcome, hs]
        rfl
      rw [hdone]
      exact ⟨fun _ => rfl, fun hn => absurd hs hn, iff_of_true rfl (Or.inl hs),
        fun hn => absurd rfl hn⟩
    · -- The verdict is that of the suite, whose two totals are both taken from its reports.
      have hran : outcome = runScenarios around bench { colours, verbose } parallel scenarios := by
        rw [houtcome, if_neg (by rwa [List.isEmpty_iff])]
      have hworld : outcome.world = ran.2 := by rw [hran]; rfl
      have hresult : outcome.result = verdict ran.1 := by rw [hran]; rfl
      rw [hresult, verdict, or_iff_right hs, ← SuiteReport.allPassed_iff]
      refine ⟨fun he => absurd he hs, fun _ => hworld, ?_, ?_⟩
      · split
        · exact iff_of_true rfl ‹_›
        · exact iff_of_false (fun he => by cases he) ‹_›
      · intro hn
        split at hn
        · exact absurd rfl hn
        · rename_i hp
          rw [if_neg hp, SuiteReport.failed_eq, hcount]
          exact ⟨ran.1.failed_pos hp, rfl⟩

def plainText : String := "name: A\nactions:\n- method: GET\n  path: /x\n"

def plainFiles : Surroundings where
  files := ⟨.directory [("a.yaml", .file plainText.toUTF8.data.toList)], []⟩

def plainScenario : LoadedScenario where
  path := some "a.yaml"
  scenario := (Scenario.parse plainText "a.yaml").toOption.getD { name := "" }

theorem loads_plainFiles :
    Loads plainFiles {} ["a.yaml"] {} [] [plainScenario] where
  config := rfl
  noRecipes := fun _ => rfl
  recipes := fun directory hd => by cases hd
  scenarios := by
    have hread : plainFiles.files.readText "a.yaml" = .ok plainText := by decide +kernel
    have hparse : Scenario.parse plainText "a.yaml" = .ok plainScenario.scenario :=
      eq_ok_of_toBool (Scenario.parse plainText "a.yaml") { name := "" } (by decide +kernel)
    have hroot : plainFiles.files.rootFiles "a.yaml" = .ok ["a.yaml"] := by decide +kernel
    have hfound : plainFiles.files.yamlFiles ["a.yaml"] = .ok ["a.yaml"] := by
      rw [Files.yamlFiles, List.mapM_cons, hroot, List.mapM_nil]
      show Except.ok (Path.sorted ["a.yaml"]) = _
      rw [Path.sorted, List.mergeSort_singleton]
      rfl
    exact ⟨["a.yaml"], hfound, .cons ⟨plainText, hread, rfl, hparse⟩ .nil⟩

/-- Nobody answers, so the one scenario fails; with a path that leads nowhere nothing is tried. -/
theorem run_verdict_plainFiles :
    Loads plainFiles {} ["a.yaml"] {} [] [plainScenario] ∧
    (execute plainFiles false (.run ["a.yaml"] {} none false false)).result =
      .error (.assertionFailure "1 of 1 scenarios failed") ∧
    (∀ config found loaded, ¬ Loads plainFiles {} ["a.yaml", "b.yaml"] config found loaded) ∧
    (execute plainFiles false (.run ["a.yaml", "b.yaml"] {} none false false)).world.sent = [] := by
  have hmissing : ∀ config found loaded,
      ¬ Loads plainFiles {} ["a.yaml", "b.yaml"] config found loaded := by
    intro config found loaded h
    obtain ⟨files, hfiles, -⟩ := h.scenarios
    have hbool :
        (plainFiles.files.yamlFiles (scenarioPaths ["a.yaml", "b.yaml"])).toBool = false := by
      decide +kernel
    rw [hfiles] at hbool
    cases hbool
  obtain ⟨hnot, -⟩ := run_verdict plainFiles {} ["a.yaml", "b.yaml"] false none false false
  obtain ⟨-, hloads⟩ := run_verdict plainFiles {} ["a.yaml"] false none false false
  obtain ⟨-, -, -, hok, hfailed⟩ := hloads {} [] [plainScenario] loads_plainFiles
  have hcount : (Suite.run (Bench.new {} []).runner Network.unreachable false [plainScenario]
      Bench.scope (Bench.new {} []).world).1.reports.countP Report.hasFailed = 1 := by
    decide +kernel
  have hbad : (execute plainFiles false (.run ["a.yaml"] {} none false false)).result ≠ .ok () := by
    intro he
    rcases hok.mp he with hs | hp
    · cases hs
    · obtain ⟨report, hmem, hf⟩ := List.countP_pos_iff.mp (hcount ▸ Nat.one_pos)
      rw [Report.hasFailed_eq, hp report hmem] at hf
      cases hf
  have hresult := (hfailed hbad).2
  refine ⟨loads_plainFiles, hresult.trans ?_, hmissing, (hnot hmissing).2⟩
  refine congrArg (fun n : Nat => Except.error (Error.assertionFailure
    s!"{n} of {1} scenarios failed")) hcount |>.trans ?_
  decide +kernel

end Command

end ApiTrial
