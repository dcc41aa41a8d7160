import ApiTrial.Proofs.StoreHistory
import ApiTrial.Scenario.Suite
import Mathlib.Data.List.Forall2

/-! The lanes of a suite and the order of its reports. The groups split the scenarios, so each
scenario belongs to one lane, and its position there is that in the suite. Reports that are put in
the order of these positions therefore come one for each scenario. -/
namespace ApiTrial.Suite

structure Lane where
  group : Option String
  scope : ScopeId

/-- The lanes of a suite. The scopes of the groups are numbered from the first on. -/
def lanes (scenarios : List LoadedScenario) (scope first : ScopeId) : List Lane :=
  ⟨none, scope⟩ :: ((groups scenarios).zipIdx first).map fun entry => ⟨some entry.1, entry.2⟩

def Lane.routine (runner : Runner) (scenarios : List LoadedScenario) (lane : Lane) :
    Routine (List Report) :=
  runLane runner lane.scope ((members scenarios lane.group).map (·.1))

def placed (scenarios : List LoadedScenario) (lanes : List Lane) (results : List (List Report)) :
    List (Nat × Report) :=
  (lanes.zip results).flatMap fun entry =>
    ((members scenarios entry.1.group).map (·.2)).zip entry.2

section Lanes
variable (scenarios : List LoadedScenario) (scope first : Nat)

theorem getElem?_lanes_succ (i : Nat) : (lanes scenarios scope first)[i + 1]? =
    (groups scenarios)[i]?.map fun group => ⟨some group, first + i⟩ := by
  rw [lanes, List.getElem?_cons_succ, List.getElem?_map, List.getElem?_zipIdx, Option.map_map]
  rfl

/-- The lane of a group works in a new scope. -/
theorem scope_of_group (i : Nat) (lane : Lane) (h : (lanes scenarios scope first)[i]? = some lane)
    (hgroup : lane.group.isSome = true) :
    first ≤ lane.scope ∧ lane.scope < first + (groups scenarios).length := by
  cases i with
  | zero =>
    cases h
    cases hgroup
  | succ i =>
    rw [getElem?_lanes_succ] at h
    obtain ⟨group, hg, rfl⟩ := Option.map_eq_some_iff.mp h
    have hlt := (List.getElem?_eq_some_iff.mp hg).1
    exact ⟨Nat.le_add_right _ _, Nat.add_lt_add_left hlt first⟩

/-- The lane of no group works in the scope of the suite. -/
theorem scope_of_none (i : Nat) (lane : Lane) (h : (lanes scenarios scope first)[i]? = some lane)
    (hgroup : lane.group = none) : lane.scope = scope := by
  cases i with
  | zero =>
    cases h
    rfl
  | succ i =>
    rw [getElem?_lanes_succ] at h
    obtain ⟨group, -, rfl⟩ := Option.map_eq_some_iff.mp h
    cases hgroup

/-- Two lanes of groups do not share a scope. -/
theorem eq_of_scope_eq (i j : Nat) (a b : Lane) (ha : (lanes scenarios scope first)[i]? = some a)
    (hb : (lanes scenarios scope first)[j]? = some b) (hag : a.group.isSome = true)
    (hbg : b.group.isSome = true) (h : a.scope = b.scope) : i = j := by
  cases i with
  | zero =>
    cases ha
    cases hag
  | succ i =>
    cases j with
    | zero =>
      cases hb
      cases hbg
    | succ j =>
      rw [getElem?_lanes_succ] at ha hb
      obtain ⟨group, -, rfl⟩ := Option.map_eq_some_iff.mp ha
      obtain ⟨other, -, rfl⟩ := Option.map_eq_some_iff.mp hb
      have hsame : first + i = first + j := h
      omega

theorem mem_groups (group : String) :
    group ∈ groups scenarios ↔ ∃ s ∈ scenarios, s.scenario.group = some group := by
  rw [groups, ← Table.get?_isSome_iff, Table.get?_ofEntries_isSome_iff, List.map_map,
    Function.comp_def, List.map_id', List.mem_filterMap]

theorem nodup_groups : (groups scenarios).Nodup :=
  List.pairwise_map.mpr ((Table.ordered_ofEntries _).imp fun hlt => ne_of_lt hlt)

theorem groups_eq_nil (h : ∀ s ∈ scenarios, s.scenario.group = none) : groups scenarios = [] := by
  rw [List.eq_nil_iff_forall_not_mem]
  intro group hg
  obtain ⟨s, hs, hx⟩ := (mem_groups scenarios group).mp hg
  rw [h s hs] at hx
  cases hx

/-- Lists of entries of one kind each make up the whole list. -/
theorem perm_flatMap_filter {α κ : Type} [BEq κ] [LawfulBEq κ] (kind : α → κ) (kinds : List κ)
    (l : List α) (hn : kinds.Nodup) (hl : ∀ a ∈ l, kind a ∈ kinds) :
    (kinds.flatMap fun k => l.filter fun a => kind a == k).Perm l := by
  induction kinds generalizing l with
  | nil =>
    have hnil : l = [] := List.eq_nil_iff_forall_not_mem.mpr fun a ha => List.not_mem_nil (hl a ha)
    rw [hnil, List.flatMap_nil]
  | cons k kinds ih =>
    obtain ⟨hk, hkinds⟩ := List.nodup_cons.mp hn
    have hrest : ∀ a ∈ l.filter (fun a => !(kind a == k)), kind a ∈ kinds := by
      intro a ha
      obtain ⟨ha, hne⟩ := List.mem_filter.mp ha
      rcases List.mem_cons.mp (hl a ha) with he | hmem
      · simp [he] at hne
      · exact hmem
    have hsame : (kinds.flatMap fun k' => (l.filter fun a => !(kind a == k)).filter fun a =>
        kind a == k') = kinds.flatMap fun k' => l.filter fun a => kind a == k' := by
      apply List.flatMap_congr
      intro k' hk'
      rw [List.filter_filter]
      congr 1
      funext a
      by_cases he : kind a = k'
      · have hne : k' ≠ k := fun h => hk (h ▸ hk')
        simp [he, hne]
      · simp [he]
    have hothers := ih _ hkinds hrest
    rw [hsame] at hothers
    exact (List.Perm.append_left _ hothers).trans (List.filter_append_perm _ l)

/-- The positions in all lanes are those of the suite. -/
theorem perm_positions :
    ((lanes scenarios scope first).flatMap fun lane =>
      (members scenarios lane.group).map (·.2)).Perm (List.range scenarios.length) := by
  have hkinds : (lanes scenarios scope first).map Lane.group =
      none :: (groups scenarios).map some := by
    have hnames := congrArg (List.map some) (List.zipIdx_map_fst first (groups scenarios))
    rw [List.map_map] at hnames
    rw [lanes, List.map_cons, List.map_map]
    exact congrArg (List.cons none) hnames
  have hnodup : (none :: (groups scenarios).map some).Nodup := by
    refine List.nodup_cons.mpr ⟨by simp, ?_⟩
    exact (nodup_groups scenarios).map (Option.some_injective _)
  have hmem : ∀ s ∈ scenarios.zipIdx, s.1.scenario.group ∈ none :: (groups scenarios).map some := by
    intro s hs
    have hin := List.mem_of_getElem? (List.mem_zipIdx_iff_getElem?.mp hs)
    cases hg : s.1.scenario.group with
    | none => exact List.mem_cons_self
    | some group =>
      exact List.mem_cons_of_mem _ (List.mem_map_of_mem ((mem_groups _ _).mpr ⟨s.1, hin, hg⟩))
  have hperm := (perm_flatMap_filter (fun s : LoadedScenario × Nat => s.1.scenario.group) _
    scenarios.zipIdx hnodup hmem).map (·.2)
  rw [List.zipIdx_map_snd, ← List.range_eq_range', ← hkinds, List.flatMap_map, List.map_flatMap]
    at hperm
  exact hperm

end Lanes

/-- Reports at the positions of a suite are put each at its own. -/
theorem getElem?_inOrder (entries : List (Nat × Report)) (count : Nat)
    (h : (entries.map (·.1)).Perm (List.range count)) (i : Nat) (report : Report) :
    (inOrder entries)[i]? = some report ↔ (i, report) ∈ entries := by
  have hperm := List.mergeSort_perm entries fun a b => decide (a.1 ≤ b.1)
  have hsorted : (entries.mergeSort fun a b => decide (a.1 ≤ b.1)).Pairwise
      fun a b => decide (a.1 ≤ b.1) = true := by
    apply List.pairwise_mergeSort
    · intro a b c hab hbc
      exact decide_eq_true ((of_decide_eq_true hab).trans (of_decide_eq_true hbc))
    · intro a b
      rw [Bool.or_eq_true, decide_eq_true_eq, decide_eq_true_eq]
      exact Nat.le_total a.1 b.1
  rw [inOrder, List.getElem?_map]
  generalize entries.mergeSort (fun a b => decide (a.1 ≤ b.1)) = sorted at hperm hsorted ⊢
  have hrise : (sorted.map (·.1)).Pairwise (· ≤ ·) :=
    List.pairwise_map.mpr (hsorted.imp of_decide_eq_true)
  have hpositions : sorted.map (·.1) = List.range count :=
    ((hperm.map _).trans h).eq_of_pairwise (fun a b _ _ hab hba => Nat.le_antisymm hab hba) hrise
      List.pairwise_le_range
  have hat (j : Nat) (entry : Nat × Report) (hj : sorted[j]? = some entry) : entry.1 = j := by
    have hx : (sorted.map (·.1))[j]? = some entry.1 := by
      rw [List.getElem?_map, hj, Option.map_some]
    rw [hpositions] at hx
    obtain ⟨hlt, he⟩ := List.getElem?_eq_some_iff.mp hx
    rw [List.getElem_range] at he
    exact he.symm
  rw [← hperm.mem_iff, Option.map_eq_some_iff]
  constructor
  · rintro ⟨entry, he, rfl⟩
    have hi := hat i entry he
    rw [← hi]
    exact List.mem_of_getElem? he
  · intro hmem
    obtain ⟨j, hj⟩ := List.mem_iff_getElem?.mp hmem
    have hi : i = j := hat j _ hj
    exact ⟨(i, report), by rw [hi]; exact hi ▸ hj, rfl⟩

theorem inOrder_zip_range (reports : List Report) :
    inOrder ((List.range reports.length).zip reports) = reports := by
  have hfst : ((List.range reports.length).zip reports).map (·.1) = List.range reports.length :=
    List.map_fst_zip (List.length_range).le
  have hsorted : ((List.range reports.length).zip reports).Pairwise
      fun a b => decide (a.1 ≤ b.1) = true := by
    have hle := List.pairwise_le_range (n := reports.length)
    rw [← hfst] at hle
    exact (List.pairwise_map.mp hle).imp decide_eq_true
  rw [inOrder, List.mergeSort_of_pairwise hsorted, List.map_snd_zip (List.length_range).ge]

theorem positions_placed (scenarios : List LoadedScenario) (lanes : List Lane)
    (results : List (List Report)) (h : List.Forall₂ (fun (lane : Lane) reports =>
      reports.length = (members scenarios lane.group).length) lanes results) :
    (placed scenarios lanes results).map (·.1) =
      lanes.flatMap fun lane => (members scenarios lane.group).map (·.2) := by
  induction h with
  | nil => rfl
  | cons hlength _ ih =>
    rw [placed, List.zip_cons_cons, List.flatMap_cons, List.flatMap_cons, List.map_append,
      List.map_fst_zip (by rw [List.length_map, hlength])]
    congr 1

theorem mem_placed (scenarios : List LoadedScenario) (lanes : List Lane)
    (results : List (List Report)) (entry : Nat × Report) :
    entry ∈ placed scenarios lanes results ↔ ∃ (i : Nat) (lane : Lane) (reports : List Report),
      lanes[i]? = some lane ∧ results[i]? = some reports ∧
      entry ∈ ((members scenarios lane.group).map (·.2)).zip reports := by
  rw [placed, List.mem_flatMap]
  constructor
  · rintro ⟨⟨lane, reports⟩, hmem, he⟩
    obtain ⟨i, hi⟩ := List.mem_iff_getElem?.mp hmem
    obtain ⟨hlane, hreports⟩ := List.getElem?_zip_eq_some.mp hi
    exact ⟨i, lane, reports, hlane, hreports, he⟩
  · rintro ⟨i, lane, reports, hlane, hreports, he⟩
    exact ⟨(lane, reports), List.mem_of_getElem? (List.getElem?_zip_eq_some.mpr ⟨hlane, hreports⟩),
      he⟩

theorem zip_openScopes (scope : ScopeId) (groups : List String) (world : World) :
    groups.zip (openScopes scope groups world).1 = groups.zipIdx world.store.length := by
  induction groups generalizing world with
  | nil => rfl
  | cons group rest ih =>
    rw [openScopes, List.zip_cons_cons, List.zipIdx_cons]
    congr 1
    exact ih _

/-- A run in lanes, told by its lanes. -/
theorem runLanes_eq (runner : Runner) (network : Network) (schedule : List Nat)
    (scenarios : List LoadedScenario) (scope : ScopeId) (world : World) :
    let among := lanes scenarios scope world.store.length
    let outcome := Routine.runLanes network schedule (among.map (Lane.routine runner scenarios))
      (openScopes scope (groups scenarios) world).2
    runLanes runner network schedule scenarios scope world =
      (inOrder (placed scenarios among outcome.1), outcome.2) := by
  intro among outcome
  have hlanes : (members scenarios none, scope) ::
      ((groups scenarios).map fun group => members scenarios (some group)).zip
        (openScopes scope (groups scenarios) world).1 =
      among.map fun lane => (members scenarios lane.group, lane.scope) := by
    rw [List.zip_map_left, zip_openScopes]
    simp only [among, lanes, List.map_cons, List.map_map]
    rfl
  have hroutines : ((among.map fun lane => (members scenarios lane.group, lane.scope)).map
      fun lane => runLane runner lane.2 (lane.1.map (·.1))) =
      among.map (Lane.routine runner scenarios) := by
    rw [List.map_map]
    rfl
  have hplaced (results : List (List Report)) :
      (((among.map fun lane => (members scenarios lane.group, lane.scope)).zip results).flatMap
        fun entry => (entry.1.1.map (·.2)).zip entry.2) = placed scenarios among results := by
    rw [List.zip_map_left, List.flatMap_map]
    rfl
  rw [runLanes]
  dsimp only
  rw [hlanes, hroutines, hplaced]

end ApiTrial.Suite
