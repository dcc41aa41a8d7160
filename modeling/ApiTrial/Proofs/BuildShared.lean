import ApiTrial.Proofs.BuildAlone
import ApiTrial.Proofs.BuildAtomic
import ApiTrial.Proofs.CallIdentity
import ApiTrial.Proofs.LaneWrites
import Mathlib

/-! Builds that several callers share. Whoever is not at its end is at the build of the next call of
its plan, under a key made of the path of its scope and the identity of that call. It is kept by
every step that each key is under way for one caller at most, and that whoever waits does so for a
build that is under way. A round ends one build, and its outcome is taken by those who are at it and
by nobody else. Each round leaves fewer calls ahead, so that in the end every caller has its
outcome. -/
namespace ApiTrial

structure World.Steady (top : Nat) (paths : ScopeId → String) (world : World) : Prop where
  scopes : top ≤ world.store.length
  paths : ∀ id < top, world.store.path id = paths id

namespace Fixture
variable (top : Nat) (paths : ScopeId → String)

section Steady

/-- Where the scopes of callers are spared, these keep their paths. -/
theorem steady_of_spares (before after : World) (h : before.Steady top paths)
    (hs : Store.Spares top none before.store after.store) : after.Steady top paths where
  scopes := h.scopes.trans hs.grows
  paths := by
    intro id hid
    rw [Store.path, hs.kept id hid (Option.some_ne_none id).symm, ← Store.path, h.paths id hid]

theorem steady_commit (scope : ScopeId) (built : Built) (world : World)
    (h : world.Steady top paths) : (commit scope built world).Steady top paths where
  scopes := h.scopes.trans (Store.length_merge world.store scope _).ge
  paths := fun id hid => (Store.path_merge world.store scope id _).trans (h.paths id hid)

/-- A build on its way leaves the paths of its callers alone. -/
theorem keeps_steady (client : Client) (scope : ScopeId) (fixture : Fixture) (call : Call)
    (inherited : List Outputs) (hp : fixture.Private) :
    (buildOne client scope fixture call inherited).run.Keeps (World.Steady top paths)
      fun _ => True := by
  have hspares := spares_buildOne top client scope fixture call inherited hp
  have hkeeps := Routine.keeps_of_guarantees _ _ (World.Steady top paths) _ _ hspares
    (fun w hw => hw.scopes) (fun w w' hw hs => steady_of_spares top paths w w' hw hs)
  exact Routine.keeps_mono _ _ _ _ hkeeps fun _ _ => True.intro

end Steady

namespace Caller

/-- Where paths have no colons, a key tells the path that it is made with, and the identity of the
call. -/
theorem shareKey_injective (path path' : String) (call call' : Call)
    (hp : ':' ∉ path.toList) (hp' : ':' ∉ path'.toList)
    (h : shareKey path call = shareKey path' call') :
    path = path' ∧ call.Shares call' := by
  have hkey (path : String) (call : Call) : (shareKey path call).toList =
      path.toList ++ ':' :: ':' :: call.identity.toList := by
    rw [shareKey, String.toList_append, String.toList_append, List.append_assoc]
    rfl
  have hfront (path : String) (call : Call) (hp : ':' ∉ path.toList) :
      (shareKey path call).toList.takeWhile (· != ':') = path.toList := by
    rw [hkey, List.takeWhile_append_of_pos, List.takeWhile_cons_of_neg, List.append_nil]
    · decide
    · exact fun c hc => bne_iff_ne.mpr fun he => hp (he ▸ hc)
  have hpath : path = path' := by
    refine String.toList_injective ?_
    rw [← hfront path call hp, ← hfront path' call' hp', h]
  have hlists := congrArg String.toList h
  rw [hkey, hkey, hpath, List.append_cancel_left_eq] at hlists
  refine ⟨hpath, (Call.identity_eq_iff_shares call call').mp (String.toList_injective ?_)⟩
  exact (List.cons.inj (List.cons.inj hlists).2).2

/-- A caller that has not ended is at the build of the next call of its plan, in its own path. -/
inductive Sound : Caller → Prop
  | ended (scope : ScopeId) (call : Call) (built : Built) (outcome : Except Error Outputs) :
      Sound ⟨scope, call, [], built, .ended outcome⟩
  | waiting (scope : ScopeId) (call : Call) (next : Call) (rest : List Call) (built : Built)
      (hscope : scope < top) :
      Sound ⟨scope, call, next :: rest, built, .waiting (shareKey (paths scope) next)⟩
  | building (scope : ScopeId) (call : Call) (next : Call) (rest : List Call) (built : Built)
      (routine : Routine (Except Error Outputs)) (hscope : scope < top)
      (hroutine : routine.Keeps (World.Steady top paths) fun _ => True) :
      Sound ⟨scope, call, next :: rest, built, .building (shareKey (paths scope) next) routine⟩

def Joins (others : List String) (caller : Caller) : Prop :=
  (∀ key ∈ caller.underway?, key ∉ others) ∧ ∀ key, caller.standing = .waiting key → key ∈ others

theorem joins_of_ended (others : List String) (caller : Caller) (outcome : Except Error Outputs)
    (h : caller.standing = .ended outcome) : caller.Joins others := by
  rw [Joins, underway?, h]
  exact ⟨nofun, nofun⟩

structure Stops (others : List String) (caller : Caller) (plan : List Call) (stopped : Caller) :
    Prop where
  scope : stopped.scope = caller.scope
  call : stopped.call = caller.call
  built : caller.built <+: stopped.built
  ahead : stopped.ahead <:+ plan
  joins : stopped.Joins others
  sound : stopped.Sound top paths

end Caller

section Steps
variable (registry : Registry) (client : Client) (others : List String)
  (hp : ∀ fixture ∈ registry, fixture.Private)

theorem stops_finish (caller : Caller) (plan : List Call) (outcome : Except Error Outputs) :
    Caller.Stops top paths others caller plan (caller.finish outcome) where
  scope := rfl
  call := rfl
  built := List.prefix_refl _
  ahead := List.nil_suffix
  joins := Caller.joins_of_ended others _ outcome rfl
  sound := .ended _ _ _ _

include hp in
/-- A caller that goes on stops at its end, or at the first call that takes its time, and builds
nothing that is being built for another one. -/
theorem stops_advance (caller : Caller) (plan : List Call) (world : World)
    (hscope : caller.scope < top) (hw : world.Steady top paths) :
    let stopped := caller.advance registry client others plan world
    Caller.Stops top paths others caller plan stopped.1 ∧ stopped.2.Steady top paths := by
  induction plan generalizing caller world with
  | nil =>
    exact ⟨stops_finish top paths others caller [] _, steady_commit top paths _ _ world hw⟩
  | cons call rest ih =>
    intro stopped
    have hpath := hw.paths caller.scope hscope
    rcases advance_cons registry client others caller call rest world with
      ⟨hk, h⟩ | ⟨hk, ⟨e, -, h⟩ | ⟨fixture, hg, ⟨e, -, h⟩ | ⟨inherited, -, hcases⟩⟩⟩
    · rw [hpath] at hk h
      rw [show stopped = _ from h]
      refine ⟨⟨rfl, rfl, List.prefix_refl _, List.suffix_refl _, ⟨nofun, ?_⟩, ?_⟩, hw⟩
      · rintro _ ⟨⟩
        exact hk
      · exact .waiting _ _ _ _ _ hscope
    · rw [show stopped = _ from h]
      exact ⟨stops_finish top paths others caller _ _, hw⟩
    · rw [show stopped = _ from h]
      exact ⟨stops_finish top paths others caller _ _, hw⟩
    have hf := hp fixture (mem_of_get? registry _ _ (Registry.get?_of_get registry _ _ hg))
    obtain ⟨hkeeps, hleft⟩ := Routine.untilWait_of_keeps _ _ _ world
      (keeps_steady top paths client caller.scope fixture call inherited hf) hw
    rcases hcases with ⟨e, -, h⟩ | ⟨outputs, -, h⟩ | ⟨-, h⟩
    · rw [show stopped = _ from h]
      exact ⟨stops_finish top paths others caller _ _, hleft⟩
    · rw [show stopped = _ from h]
      obtain ⟨hstops, hsteady⟩ := ih { caller with
        ahead := call :: rest, built := caller.built ++ [(call, outputs)] } _ hscope hleft
      refine ⟨⟨hstops.scope, hstops.call, ?_, ?_, hstops.joins, hstops.sound⟩, hsteady⟩
      · exact (List.prefix_append _ _).trans hstops.built
      · exact hstops.ahead.trans (List.suffix_cons _ _)
    · rw [hpath] at hk h
      rw [show stopped = _ from h]
      refine ⟨⟨rfl, rfl, List.prefix_refl _, List.suffix_refl _, ⟨?_, nofun⟩, ?_⟩, hleft⟩
      · rintro _ ⟨⟩
        exact hk
      · exact .building _ _ _ _ _ _ hscope hkeeps

end Steps

/-- Callers that share their builds: each key is built for one of them at a time, and whoever waits
for a build waits for one that is under way. -/
structure Sharing (callers : List Caller) : Prop where
  once : (callers.filterMap Caller.underway?).Nodup
  awaited : ∀ caller ∈ callers, ∀ key, caller.standing = .waiting key →
    key ∈ callers.filterMap Caller.underway?
  sound : ∀ caller ∈ callers, caller.Sound top paths

section Callers

/-- Whoever builds what no other one builds, or waits for what another one builds, may join. -/
theorem sharing_insert (front back : List Caller) (caller : Caller)
    (h : Sharing top paths (front ++ back))
    (hj : caller.Joins ((front ++ back).filterMap Caller.underway?))
    (hs : caller.Sound top paths) : Sharing top paths (front ++ caller :: back) := by
  have hperm : (front ++ caller :: back).Perm (caller :: (front ++ back)) := List.perm_middle
  have hkeys := hperm.filterMap Caller.underway?
  refine ⟨hkeys.nodup_iff.mpr ?_, ?_, ?_⟩
  · rw [List.filterMap_cons]
    cases hu : caller.underway? with
    | none => exact h.once
    | some key => exact List.nodup_cons.mpr ⟨hj.1 key hu, h.once⟩
  · intro other hm key hwaits
    rw [hkeys.mem_iff, List.filterMap_cons]
    have hother : key ∈ (front ++ back).filterMap Caller.underway? := by
      rcases List.mem_cons.mp (hperm.mem_iff.mp hm) with rfl | hm
      · exact hj.2 key hwaits
      · exact h.awaited other hm key hwaits
    cases caller.underway? with
    | none => exact hother
    | some _ => exact List.mem_cons_of_mem _ hother
  · intro other hm
    rcases List.mem_cons.mp (hperm.mem_iff.mp hm) with rfl | hm
    · exact hs
    · exact h.sound other hm

theorem isAt_iff (caller : Caller) (key : String) : caller.isAt key = true ↔
    caller.underway? = some key ∨ caller.standing = .waiting key := by
  rw [Caller.isAt, Caller.underway?]
  cases caller.standing <;> simp

/-- Those who are not at a build that is over still share theirs. -/
theorem sharing_filter (callers : List Caller) (key : String) (h : Sharing top paths callers) :
    Sharing top paths (callers.filter fun caller => !caller.isAt key) where
  once := h.once.sublist (List.filter_sublist.filterMap _)
  awaited := by
    intro caller hm other hwaits
    obtain ⟨hm, hnot⟩ := List.mem_filter.mp hm
    obtain ⟨builder, hb, hu⟩ := List.mem_filterMap.mp (h.awaited caller hm other hwaits)
    refine List.mem_filterMap.mpr ⟨builder, List.mem_filter.mpr ⟨hb, ?_⟩, hu⟩
    have hne : other ≠ key := by
      rintro rfl
      have hat := (isAt_iff caller other).mpr (Or.inr hwaits)
      simp [hat] at hnot
    rw [Bool.not_eq_true', ← Bool.not_eq_true, isAt_iff, hu]
    rintro (he | he)
    · exact hne (Option.some.inj he)
    · rw [Caller.underway?, he] at hu
      cases hu
  sound := fun caller hm => h.sound caller (List.mem_filter.mp hm).1

/-- What becomes of a caller when the outcome of a build is handed out. Whoever is at that build
takes the outcome and goes on, or ends with its error, and nothing becomes of the others. -/
inductive Handed (key : String) (outcome : Except Error Outputs) : Caller → Caller → Prop
  | passed (caller : Caller) (hat : caller.isAt key = false) : Handed key outcome caller caller
  | taken (caller after : Caller) (next : Call) (rest : List Call) (outputs : Outputs)
      (hat : caller.isAt key = true) (ho : outcome = .ok outputs)
      (hnext : caller.ahead = next :: rest) (hscope : after.scope = caller.scope)
      (hcall : after.call = caller.call)
      (hbuilt : caller.built ++ [(next, outputs)] <+: after.built) (hrest : after.ahead <:+ rest) :
      Handed key outcome caller after
  | failed (caller : Caller) (next : Call) (rest : List Call) (e : Error)
      (hat : caller.isAt key = true) (ho : outcome = .error e)
      (hnext : caller.ahead = next :: rest) : Handed key outcome caller (caller.finish (.error e))

variable (registry : Registry) (client : Client) (hp : ∀ fixture ∈ registry, fixture.Private)

/-- Whoever is at a build needs its outcome for the next call. -/
theorem exists_next (caller : Caller) (key : String) (hs : caller.Sound top paths)
    (hat : caller.isAt key = true) : caller.scope < top ∧ ∃ next rest,
      caller.ahead = next :: rest ∧ key = Caller.shareKey (paths caller.scope) next := by
  cases hs with
  | ended scope call built outcome => cases hat
  | waiting scope call next rest built hscope =>
    exact ⟨hscope, next, rest, rfl, (eq_of_beq hat).symm⟩
  | building scope call next rest built routine hscope hroutine =>
    exact ⟨hscope, next, rest, rfl, (eq_of_beq hat).symm⟩

/-- Callers at one build need calls that share an identity, in scopes of one path. -/
theorem shares_of_isAt (one other : Caller) (key : String) (hone : one.Sound top paths)
    (hother : other.Sound top paths) (hat : one.isAt key = true) (hat' : other.isAt key = true)
    (hpath : ':' ∉ (paths one.scope).toList) (hpath' : ':' ∉ (paths other.scope).toList) :
    paths one.scope = paths other.scope ∧ ∃ next rest next' rest', one.ahead = next :: rest ∧
      other.ahead = next' :: rest' ∧ next.Shares next' := by
  obtain ⟨-, next, rest, hnext, hkey⟩ := exists_next top paths one key hone hat
  obtain ⟨-, next', rest', hnext', hkey'⟩ := exists_next top paths other key hother hat'
  obtain ⟨hsame, hshares⟩ := Caller.shareKey_injective _ _ next next' hpath hpath'
    (hkey.symm.trans hkey')
  exact ⟨hsame, next, rest, next', rest', hnext, hnext', hshares⟩

include hp in
theorem handed_receive (others : List String) (caller : Caller) (key : String)
    (outcome : Except Error Outputs) (world : World) (hs : caller.Sound top paths)
    (hat : caller.isAt key = true) (hw : world.Steady top paths) :
    let served := caller.receive registry client others outcome world
    Handed key outcome caller served.1 ∧ served.1.Joins others ∧ served.1.Sound top paths ∧
      served.2.Steady top paths := by
  obtain ⟨hscope, next, rest, hnext, -⟩ := exists_next top paths caller key hs hat
  intro served
  cases outcome with
  | error e =>
    exact ⟨.failed caller next rest e hat rfl hnext, Caller.joins_of_ended others _ _ rfl,
      .ended _ _ _ _, hw⟩
  | ok outputs =>
    have hserved : served = Caller.advance registry client others
        { caller with built := caller.built ++ [(next, outputs)] } rest world := by
      simp only [served, Caller.receive, hnext]
    obtain ⟨hstops, hsteady⟩ := stops_advance top paths registry client others hp
      { caller with built := caller.built ++ [(next, outputs)] } rest world hscope hw
    rw [← hserved] at hstops hsteady
    exact ⟨.taken caller served.1 next rest outputs hat rfl hnext hstops.scope hstops.call
      hstops.built hstops.ahead, hstops.joins, hstops.sound, hsteady⟩

include hp in
/-- While an outcome is handed out, those who are still to be served count for nothing, and those
who are served have joined the others again. -/
theorem handed_handOut (key : String) (outcome : Except Error Outputs)
    (served callers : List Caller) (world : World)
    (h : Sharing top paths (served ++ callers.filter fun caller => !caller.isAt key))
    (hs : ∀ caller ∈ callers, caller.Sound top paths) (hw : world.Steady top paths) :
    let result := handOut registry client key outcome served callers world
    Sharing top paths result.1 ∧ result.2.Steady top paths ∧
      ∃ after, result.1 = served ++ after ∧ List.Forall₂ (Handed key outcome) callers after := by
  induction callers generalizing served world with
  | nil =>
    rw [List.filter_nil, List.append_nil] at h
    exact ⟨h, hw, [], (List.append_nil _).symm, .nil⟩
  | cons caller rest ih =>
    obtain ⟨hcaller, hrest⟩ := List.forall_mem_cons.mp hs
    intro result
    have hresult : result = handOut registry client key outcome served (caller :: rest) world := rfl
    rw [handOut] at hresult
    cases hat : caller.isAt key with
    | true =>
      rw [List.filter_cons_of_neg (by simp [hat])] at h
      let others := (served ++ rest.filter fun c => !c.isAt key).filterMap Caller.underway?
      let taken := caller.receive registry client others outcome world
      have hgoes : result =
          handOut registry client key outcome (served ++ [taken.1]) rest taken.2 :=
        hresult.trans (if_pos hat)
      obtain ⟨hhanded, hjoins, hsound, hsteady⟩ := handed_receive top paths registry client hp
        others caller key outcome world hcaller hat hw
      have hshares := sharing_insert top paths _ _ taken.1 h hjoins hsound
      rw [List.append_cons] at hshares
      obtain ⟨hall, hlast, after, hafter, hpairs⟩ := ih _ _ hshares hrest hsteady
      rw [← hgoes] at hall hlast hafter
      refine ⟨hall, hlast, taken.1 :: after, ?_, .cons hhanded hpairs⟩
      rw [hafter, List.append_assoc, List.singleton_append]
    | false =>
      rw [List.filter_cons_of_pos (by simp [hat]), List.append_cons] at h
      rw [if_neg (by simp [hat])] at hresult
      obtain ⟨hall, hlast, after, hafter, hpairs⟩ := ih _ _ h hrest hw
      rw [← hresult] at hall hlast hafter
      refine ⟨hall, hlast, caller :: after, ?_, .cons (.passed caller hat) hpairs⟩
      rw [hafter, List.append_assoc, List.singleton_append]

end Callers

section Rounds
variable (registry : Registry) (client : Client) (network : Network)
  (hp : ∀ fixture ∈ registry, fixture.Private)

def round (state : List Caller × World) : List Caller × World :=
  match firstUnderway? state.1 with
  | none => state
  | some (key, routine) =>
    let (outcome, world) := routine.run network state.2
    handOut registry client key outcome [] state.1 world

theorem round_of_none (state : List Caller × World) (h : firstUnderway? state.1 = none) :
    round registry client network state = state := by
  rw [round, h]

theorem round_of_some (state : List Caller × World) (key : String)
    (routine : Routine (Except Error Outputs)) (h : firstUnderway? state.1 = some (key, routine)) :
    round registry client network state = handOut registry client key
      (routine.run network state.2).1 [] state.1 (routine.run network state.2).2 := by
  rw [round, h]

/-- Rounds behind the last build change nothing. -/
theorem finishAll_eq_iterate (rounds : Nat) (callers : List Caller) (world : World) :
    finishAll registry client network rounds callers world =
      (round registry client network)^[rounds] (callers, world) := by
  induction rounds generalizing callers world with
  | zero => rfl
  | succ rounds ih =>
    rw [Function.iterate_succ_apply, finishAll]
    cases hf : firstUnderway? callers with
    | none =>
      have hfixed := round_of_none registry client network (callers, world) hf
      rw [hfixed, Function.iterate_fixed hfixed]
    | some build =>
      rw [round_of_some registry client network (callers, world) build.1 build.2 hf]
      exact ih _ _

theorem exists_building (callers : List Caller) (key : String)
    (routine : Routine (Except Error Outputs)) (h : firstUnderway? callers = some (key, routine)) :
    ∃ caller ∈ callers, caller.standing = .building key routine := by
  obtain ⟨caller, hm, hb⟩ := List.exists_of_findSome?_eq_some h
  refine ⟨caller, hm, ?_⟩
  split at hb
  · rename_i k r hs
    cases hb
    exact hs
  · cases hb

/-- Where no build is under way, nobody is left to wait for one. -/
theorem ended_of_none (callers : List Caller) (hs : Sharing top paths callers)
    (h : firstUnderway? callers = none) (caller : Caller) (hm : caller ∈ callers) :
    ∃ outcome, caller.standing = .ended outcome := by
  have hidle (other : Caller) (ho : other ∈ callers) : other.underway? = none := by
    have hnone := List.findSome?_eq_none_iff.mp h other ho
    rw [Caller.underway?]
    cases hstanding : other.standing with
    | building key routine =>
      rw [hstanding] at hnone
      cases hnone
    | waiting key => rfl
    | ended outcome => rfl
  cases hstanding : caller.standing with
  | building key routine =>
    have hnone := hidle caller hm
    rw [Caller.underway?, hstanding] at hnone
    cases hnone
  | waiting key =>
    obtain ⟨other, ho, hu⟩ := List.mem_filterMap.mp (hs.awaited caller hm key hstanding)
    rw [hidle other ho] at hu
    cases hu
  | ended outcome => exact ⟨outcome, rfl⟩

def asked (caller : Caller) : ScopeId × Call := (caller.scope, caller.call)

theorem same_of_handed (key : String) (outcome : Except Error Outputs) (callers after : List Caller)
    (h : List.Forall₂ (Handed key outcome) callers after) :
    after.map asked = callers.map asked := by
  induction h with
  | nil => rfl
  | cons hhanded _ ih =>
    rw [List.map_cons, List.map_cons, ih]
    cases hhanded with
    | passed hat => rfl
    | taken _ next rest outputs _ _ _ hscope hcall _ _ => rw [asked, asked, hscope, hcall]
    | failed next rest e _ _ _ => rfl

def callsAhead (callers : List Caller) : Nat := (callers.map fun caller => caller.ahead.length).sum

/-- Building together is one round for each call that is ahead at the start. -/
theorem buildTogether_eq (calls : List (ScopeId × Call)) (world : World) :
    let start := startAll registry client calls [] world
    let final := (round registry client network)^[callsAhead start.1] start
    buildTogether registry client network calls world =
      (final.1.map Caller.outcome, final.2) := by
  intro start final
  have hsum : start.1.foldl (fun count caller => count + caller.ahead.length) 0 =
      callsAhead start.1 := by
    rw [callsAhead, List.sum_eq_foldl, List.foldl_map]
  have hfinal : final = finishAll registry client network
      (start.1.foldl (fun count caller => count + caller.ahead.length) 0) start.1 start.2 := by
    rw [hsum, finishAll_eq_iterate]
  rw [hfinal]
  rfl

theorem length_ahead_of_handed (key : String) (outcome : Except Error Outputs)
    (caller after : Caller) (h : Handed key outcome caller after) :
    after.ahead.length ≤ caller.ahead.length ∧
      (caller.isAt key = true → after.ahead.length < caller.ahead.length) := by
  cases h with
  | passed hat => exact ⟨Nat.le_refl _, fun h => absurd (hat.symm.trans h) Bool.false_ne_true⟩
  | taken _ next rest outputs _ _ hnext _ _ _ hrest =>
    have hlt : after.ahead.length < caller.ahead.length := by
      rw [hnext]
      exact Nat.lt_succ_of_le hrest.length_le
    exact ⟨hlt.le, fun _ => hlt⟩
  | failed next rest e _ _ hnext =>
    have hlt : 0 < caller.ahead.length := by
      rw [hnext]
      exact Nat.succ_pos _
    exact ⟨Nat.zero_le _, fun _ => hlt⟩

theorem callsAhead_le (key : String) (outcome : Except Error Outputs) (callers after : List Caller)
    (h : List.Forall₂ (Handed key outcome) callers after) :
    callsAhead after ≤ callsAhead callers := by
  induction h with
  | nil => exact Nat.le_refl _
  | cons hhanded _ ih =>
    exact Nat.add_le_add (length_ahead_of_handed key outcome _ _ hhanded).1 ih

/-- With each outcome that is handed out, at least one call less is ahead. -/
theorem callsAhead_lt (key : String) (outcome : Except Error Outputs) (callers after : List Caller)
    (h : List.Forall₂ (Handed key outcome) callers after)
    (hat : ∃ caller ∈ callers, caller.isAt key = true) :
    callsAhead after < callsAhead callers := by
  induction h with
  | nil =>
    obtain ⟨caller, hm, -⟩ := hat
    cases hm
  | @cons caller next rest nexts hhanded hrest ih =>
    obtain ⟨hle, hlt⟩ := length_ahead_of_handed key outcome caller next hhanded
    obtain ⟨other, hm, hother⟩ := hat
    rcases List.mem_cons.mp hm with rfl | hm
    · exact Nat.add_lt_add_of_lt_of_le (hlt hother) (callsAhead_le key outcome rest nexts hrest)
    · exact Nat.add_lt_add_of_le_of_lt hle (ih ⟨other, hm, hother⟩)

include hp in
/-- One round ends the first build under way and hands its outcome out, and whatever is then under
way or waited for is shared as before. -/
theorem sharing_round (state : List Caller × World) (hs : Sharing top paths state.1)
    (hw : state.2.Steady top paths) :
    let next := round registry client network state
    Sharing top paths next.1 ∧ next.2.Steady top paths ∧ next.1.map asked = state.1.map asked ∧
      ∀ key routine, firstUnderway? state.1 = some (key, routine) →
        List.Forall₂ (Handed key (routine.run network state.2).1) state.1 next.1 ∧
          callsAhead next.1 < callsAhead state.1 := by
  intro next
  cases hf : firstUnderway? state.1 with
  | none =>
    have hsame : next = state := round_of_none registry client network state hf
    rw [hsame]
    exact ⟨hs, hw, rfl, nofun⟩
  | some build =>
    obtain ⟨key, routine⟩ := build
    obtain ⟨builder, hm, hbuilds⟩ := exists_building state.1 key routine hf
    have hat := isAt_of_building builder key routine hbuilds
    have hkeeps : routine.Keeps (World.Steady top paths) fun _ => True := by
      have hsound := hs.sound builder hm
      cases hsound <;> cases hbuilds
      assumption
    have hreached := (Routine.run_of_keeps _ _ network routine state.2 hkeeps hw).2
    obtain ⟨hall, hlast, after, hafter, hpairs⟩ := handed_handOut top paths registry client hp key
      (routine.run network state.2).1 [] state.1 (routine.run network state.2).2
      (sharing_filter top paths state.1 key hs) hs.sound hreached
    rw [← round_of_some registry client network state key routine hf] at hall hlast hafter
    replace hafter : next.1 = after := hafter
    rw [← hafter] at hpairs
    refine ⟨hall, hlast, same_of_handed key _ _ _ hpairs, ?_⟩
    rintro _ _ ⟨⟩
    exact ⟨hpairs, callsAhead_lt key _ state.1 next.1 hpairs ⟨builder, hm, hat⟩⟩

include hp in
/-- However many rounds there are, builds stay shared and callers stay with what they asked for. -/
theorem sharing_rounds (state : List Caller × World) (hs : Sharing top paths state.1)
    (hw : state.2.Steady top paths) (rounds : Nat) :
    let reached := (round registry client network)^[rounds] state
    Sharing top paths reached.1 ∧ reached.2.Steady top paths ∧
      reached.1.map asked = state.1.map asked := by
  induction rounds with
  | zero => exact ⟨hs, hw, rfl⟩
  | succ rounds ih =>
    rw [Function.iterate_succ_apply']
    obtain ⟨hshares, hsteady, hasked, -⟩ :=
      sharing_round top paths registry client network hp _ ih.1 ih.2.1
    exact ⟨hshares, hsteady, hasked.trans ih.2.2⟩

include hp in
/-- As many rounds as there are calls ahead bring every caller to its end. -/
theorem ended_of_rounds (rounds : Nat) (state : List Caller × World)
    (hs : Sharing top paths state.1) (hw : state.2.Steady top paths)
    (hr : callsAhead state.1 ≤ rounds) :
    ∀ caller ∈ ((round registry client network)^[rounds] state).1,
      ∃ outcome, caller.standing = .ended outcome := by
  induction rounds generalizing state with
  | zero =>
    cases hf : firstUnderway? state.1 with
    | none => exact ended_of_none top paths state.1 hs hf
    | some build =>
      obtain ⟨-, -, -, hround⟩ := sharing_round top paths registry client network hp state hs hw
      have hlt := (hround build.1 build.2 hf).2
      omega
  | succ rounds ih =>
    rw [Function.iterate_succ_apply]
    obtain ⟨hshares, hsteady, -, hround⟩ :=
      sharing_round top paths registry client network hp state hs hw
    cases hf : firstUnderway? state.1 with
    | none =>
      have hsame := round_of_none registry client network state hf
      rw [hsame, Function.iterate_fixed hsame]
      exact ended_of_none top paths state.1 hs hf
    | some build =>
      have hlt := (hround build.1 build.2 hf).2
      exact ih _ hshares hsteady (by omega)

include hp in
theorem sharing_startAll (calls : List (ScopeId × Call)) (started : List Caller) (world : World)
    (hscopes : ∀ entry ∈ calls, entry.1 < top) (hs : Sharing top paths started)
    (hw : world.Steady top paths) :
    let state := startAll registry client calls started world
    Sharing top paths state.1 ∧ state.2.Steady top paths ∧
      state.1.map asked = started.map asked ++ calls := by
  induction calls generalizing started world with
  | nil => exact ⟨hs, hw, (List.append_nil _).symm⟩
  | cons entry rest ih =>
    obtain ⟨scope, call⟩ := entry
    obtain ⟨hscope, hrest⟩ := List.forall_mem_cons.mp hscopes
    let others := started.filterMap Caller.underway?
    let first := Caller.start registry client others scope call world
    have hfirst : first.1.scope = scope ∧ first.1.call = call ∧ first.1.Joins others ∧
        first.1.Sound top paths ∧ first.2.Steady top paths := by
      have hstart : first = Caller.start registry client others scope call world := rfl
      rw [Caller.start] at hstart
      cases hplan : registry.plan [call] with
      | error e =>
        rw [hplan] at hstart
        rw [hstart]
        exact ⟨rfl, rfl, Caller.joins_of_ended others _ _ rfl, .ended _ _ _ _, hw⟩
      | ok plan =>
        rw [hplan] at hstart
        obtain ⟨hstops, hsteady⟩ := stops_advance top paths registry client others hp
          { scope, call, ahead := plan, standing := .waiting "" } plan world hscope hw
        rw [hstart]
        exact ⟨hstops.scope, hstops.call, hstops.joins, hstops.sound, hsteady⟩
    obtain ⟨hsame, hcall, hjoins, hsound, hsteady⟩ := hfirst
    have hinsert := sharing_insert top paths started [] first.1 (by rwa [List.append_nil])
      (by rwa [List.append_nil]) hsound
    obtain ⟨hall, hlast, hmap⟩ := ih _ _ hrest hinsert hsteady
    refine ⟨hall, hlast, hmap.trans ?_⟩
    rw [List.map_append, List.map_singleton, asked, hsame, hcall, List.append_assoc,
      List.singleton_append]

end Rounds

/-- Callers whose scopes are there build together. After any number of rounds each key is under way
for one caller at most, whoever waits does so for a build of the call that it needs, in its own
path, and the next round hands the outcome of that build to all who are at it. In the end every
caller has an outcome of its own call. -/
theorem builds_are_shared (registry : Registry) (client : Client) (network : Network)
    (calls : List (ScopeId × Call)) (world : World) (hr : registry.IsStandard)
    (hscopes : ∀ entry ∈ calls, entry.1 < world.store.length) :
    let state (rounds : Nat) :=
      (round registry client network)^[rounds] (startAll registry client calls [] world)
    (∀ rounds, Sharing world.store.length world.store.path (state rounds).1 ∧
      ∀ key routine, firstUnderway? (state rounds).1 = some (key, routine) →
        List.Forall₂ (Handed key (routine.run network (state rounds).2).1) (state rounds).1
          (state (rounds + 1)).1) ∧
    ∃ rounds, buildTogether registry client network calls world =
        ((state rounds).1.map Caller.outcome, (state rounds).2) ∧
      (state rounds).1.map asked = calls ∧
      ∀ caller ∈ (state rounds).1, ∃ outcome, caller.standing = .ended outcome := by
  intro state
  have hp := private_of_isStandard registry hr
  have hempty : Sharing world.store.length world.store.path [] := ⟨.nil, nofun, nofun⟩
  have hworld : world.Steady world.store.length world.store.path :=
    ⟨Nat.le_refl _, fun _ _ => rfl⟩
  obtain ⟨hstart, hsteady, hcalls⟩ := sharing_startAll world.store.length world.store.path registry
    client hp calls [] world hscopes hempty hworld
  have hrounds := sharing_rounds world.store.length world.store.path registry client network hp
    (startAll registry client calls [] world) hstart hsteady
  refine ⟨fun rounds => ⟨(hrounds rounds).1, fun key routine hf => ?_⟩, ?_⟩
  · obtain ⟨-, -, -, hround⟩ := sharing_round world.store.length world.store.path registry client
      network hp (state rounds) (hrounds rounds).1 (hrounds rounds).2.1
    rw [show state (rounds + 1) = _ from Function.iterate_succ_apply' _ _ _]
    exact (hround key routine hf).1
  · refine ⟨callsAhead (state 0).1, ?_, (hrounds _).2.2.trans hcalls, ?_⟩
    · exact buildTogether_eq registry client network calls world
    · exact ended_of_rounds world.store.length world.store.path registry client network hp _
        (state 0) hstart hsteady (Nat.le_refl _)

/-- Two callers in one scope come to their outputs with a single request. -/
example :
    let client : Client := .new "http://api.test" 30000
    let network : Network := fun _ _ => .answered 0 ⟨200, [], []⟩
    let world : World := ⟨[⟨"root", none, [("token", some (.str "old"))]⟩], [], []⟩
    let result := buildTogether [session.fixture] client network
      [(0, ⟨"session", []⟩), (0, ⟨"session", []⟩)] world
    result.2.sent.length = 1 ∧ result.1.map Except.toBool = [true, true] := by
  decide +kernel

end Fixture
end ApiTrial
