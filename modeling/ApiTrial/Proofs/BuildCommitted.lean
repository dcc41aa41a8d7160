import ApiTrial.Proofs.BuildOrdered
import ApiTrial.Proofs.RoutineCourse
import ApiTrial.Proofs.StoreRemoval

/-! What resolutions leave behind. A resolution that goes well builds each call of its plan once, in
the order of the plan, and then writes down all outputs at once: the last entry that holds a key
gives the value, and its fixture comes to own the key. Over a history of resolutions the owner of a
key is therefore told by the last of all entries that hold it. -/
namespace ApiTrial

namespace Store

theorem path_of_suffix (older store : Store) (hs : older <:+ store) (id : Nat)
    (hid : id < older.length) : store.path id = older.path id := by
  have hscope : store.scope? id = older.scope? id := by
    obtain ⟨newer, rfl⟩ := hs
    induction newer with
    | nil => rfl
    | cons s rest ih =>
      have hlt : id < (rest ++ older).length := by
        rw [List.length_append]
        omega
      rw [List.cons_append, scope?_cons_of_lt _ s id hlt, ih]
  rw [path, path, hscope]

theorem path_merge (store : Store) (id other : Nat) (values : List (String × Json)) :
    (store.merge id values).path other = store.path other := by
  rw [path, path, merge, scope?_modify, Option.map_map]
  congr 2
  funext s
  show (if other = id then _ else s).path = s.path
  split <;> rfl

end Store

theorem World.ownerKey_injective (path key key' : String)
    (h : World.ownerKey path key = World.ownerKey path key') : key = key' :=
  (String.append_right_inj _).mp h

/-- Of two batches, the later one counts where it has a value. -/
theorem Table.get?_ofEntries_append {α : Type} (front back : List (String × α)) (key : String) :
    get? key (ofEntries (front ++ back)) =
      (get? key (ofEntries back)).or (get? key (ofEntries front)) := by
  rw [ofEntries, insertAll, List.foldl_append, ← insertAll, ← insertAll, get?_insertAll]
  rfl

namespace Fixture

namespace Built

def holder? (built : Built) (key : String) : Option (Call × Outputs) :=
  built.reverse.find? fun entry => entry.2.contains key

theorem holder?_append (front back : Built) (key : String) :
    holder? (front ++ back) key = (holder? back key).or (holder? front key) := by
  rw [holder?, List.reverse_append, List.find?_append, ← holder?, ← holder?]

theorem holder?_cons (entry : Call × Outputs) (rest : Built) (key : String) :
    holder? (entry :: rest) key =
      (holder? rest key).or (if entry.2.contains key then some entry else none) := by
  rw [← List.singleton_append, holder?_append]
  congr 1
  rw [holder?, List.reverse_singleton, List.find?_singleton]

theorem contains_of_holder? (built : Built) (key : String) (entry : Call × Outputs)
    (h : built.holder? key = some entry) : entry.2.contains key = true := by
  rw [holder?] at h
  have hfound := List.find?_some h
  exact hfound

/-- Among the outputs of all entries, the last entry that holds a key gives its value. -/
theorem get?_outputs (built : Built) (ho : ∀ entry ∈ built, Table.Ordered entry.2) (key : String) :
    (Table.ofEntries (built.flatMap (·.2))).get? key =
      (built.holder? key).bind fun entry => entry.2.get? key := by
  induction built with
  | nil => rfl
  | cons entry rest ih =>
    have hfirst := ho entry List.mem_cons_self
    have hrest := ih fun later hl => ho later (List.mem_cons_of_mem _ hl)
    rw [List.flatMap_cons, Table.get?_ofEntries_append, hrest,
      Table.get?_ofEntries_of_ordered _ key hfirst, holder?_cons]
    cases hh : holder? rest key with
    | some later =>
      have hc := contains_of_holder? rest key later hh
      obtain ⟨value, hv⟩ := Option.isSome_iff_exists.mp hc
      simp [hv]
    | none =>
      by_cases hc : entry.2.contains key = true
      · simp [hc]
      · have hnone : entry.2.get? key = none := by
          rwa [Table.contains, Option.not_isSome_iff_eq_none] at hc
        simp [hc, hnone]

end Built

/-- An entry comes to own the keys that it holds, and no others. -/
theorem get?_ownersAfter (path : String) (owners : Table String) (entry : Call × Outputs)
    (key : String) :
    (ownersAfter path owners entry).get? (World.ownerKey path key) =
      if entry.2.contains key then some entry.1.name
      else owners.get? (World.ownerKey path key) := by
  rw [ownersAfter, Table.get?_insertAll]
  have hsome := Table.get?_ofEntries_isSome_iff
    (entry.2.keys.map fun k => (World.ownerKey path k, entry.1.name)) (World.ownerKey path key)
  have hkey : World.ownerKey path key ∈
      (entry.2.keys.map fun k => (World.ownerKey path k, entry.1.name)).map (·.1) ↔
        entry.2.contains key = true := by
    rw [Table.contains_iff, List.map_map]
    constructor
    · intro hm
      obtain ⟨k, hk, he⟩ := List.mem_map.mp hm
      exact World.ownerKey_injective path k key he ▸ hk
    · exact fun hk => List.mem_map.mpr ⟨key, hk, rfl⟩
  rw [hkey] at hsome
  cases hg : (Table.ofEntries
      (entry.2.keys.map fun k => (World.ownerKey path k, entry.1.name))).get?
        (World.ownerKey path key) with
  | none =>
    rw [hg] at hsome
    rw [if_neg (hsome.not.mp Bool.false_ne_true), Option.none_or]
  | some name =>
    rw [hg] at hsome
    obtain ⟨k, -, he⟩ := List.mem_map.mp (Table.mem_of_get?_ofEntries _ _ _ hg)
    rw [if_pos (hsome.mp rfl), Option.some_or, (Prod.mk.inj he).2]

/-- The owner of a key is told by the last entry that holds it. -/
theorem get?_owners (path : String) (owners : Table String) (built : Built) (key : String) :
    (built.foldl (ownersAfter path) owners).get? (World.ownerKey path key) =
      ((built.holder? key).map fun entry => entry.1.name).or
        (owners.get? (World.ownerKey path key)) := by
  induction built generalizing owners with
  | nil => rfl
  | cons entry rest ih =>
    rw [List.foldl_cons, ih, get?_ownersAfter, Built.holder?_cons]
    cases Built.holder? rest key with
    | some later => rfl
    | none => by_cases hc : entry.2.contains key = true <;> simp [hc]

section Resolution
variable (registry : Registry) (client : Client) (caller : ScopeId) (network : Network)

/-- Calls that are built one after the other behind what is built, each once, by the fixture of its
name and with what it inherits, and the requests that are sent for them. -/
inductive BuiltInTurn : Built → List Call → World → Built → List WireRequest → World → Prop
  | nil (built : Built) (world : World) : BuiltInTurn built [] world built [] world
  | cons (front : Built) (call : Call) (rest : List Call) (world middle after : World)
      (fixture : Fixture) (inherited : List Outputs) (outputs : Outputs) (built : Built)
      (sent : List WireRequest) (hf : registry.get? call.name = some fixture)
      (hi : fixture.inherited call front = .ok inherited)
      (ho : (buildOne client caller fixture call inherited).exec network world =
        (.ok outputs, middle))
      (hr : BuiltInTurn (front ++ [(call, outputs)]) rest middle built sent after) :
      BuiltInTurn front (call :: rest) world built
        (Mark.requests ((buildOne client caller fixture call inherited).course network world) ++ sent)
        after

/-- The course of a plan is that of its first build and then that of the rest. -/
theorem course_buildRest_cons (built : Built) (call : Call) (rest : List Call)
    (world middle : World) (fixture : Fixture) (inherited : List Outputs) (outputs : Outputs)
    (hf : registry.get? call.name = some fixture)
    (hi : fixture.inherited call built = .ok inherited)
    (ho : (buildOne client caller fixture call inherited).exec network world =
      (.ok outputs, middle)) :
    (buildRest registry client caller built (call :: rest)).course network world =
      (buildOne client caller fixture call inherited).course network world ++
        (buildRest registry client caller (built ++ [(call, outputs)]) rest).course network
          middle := by
  have hg := Registry.get_of_get? registry call.name fixture hf
  rw [buildRest, Trial.course_bind_of_ok network _ _ world world fixture (by rw [hg]; rfl),
    Trial.course_ofExcept, List.nil_append,
    Trial.course_bind_of_ok network _ _ world world inherited (by rw [hi]; rfl),
    Trial.course_ofExcept, List.nil_append,
    Trial.course_bind_of_ok network _ _ world middle outputs ho]

theorem builtInTurn_of_buildRest (plan : List Call) (built built' : Built) (world after : World)
    (h : (buildRest registry client caller built plan).exec network world = (.ok built', after)) :
    BuiltInTurn registry client caller network built plan world built'
      (Mark.requests ((buildRest registry client caller built plan).course network world)) after := by
  induction plan generalizing built world with
  | nil =>
    cases h
    exact .nil _ _
  | cons call rest ih =>
    obtain ⟨fixture, inherited, outputs, middle, hf, hi, ho, hr⟩ :=
      buildRest_cons_ok registry client caller network built built' call rest world after h
    rw [course_buildRest_cons registry client caller network built call rest world middle fixture
      inherited outputs hf hi ho, Mark.requests_append]
    exact .cons built call rest world middle after fixture inherited outputs built' _ hf hi ho
      (ih _ _ hr)

/-- Outputs that are built in turn have their keys in order. -/
theorem ordered_of_builtInTurn (hr : registry.IsStandard) (front : Built) (plan : List Call)
    (world after : World) (built : Built) (sent : List WireRequest)
    (hf : ∀ entry ∈ front, Table.Ordered entry.2)
    (h : BuiltInTurn registry client caller network front plan world built sent after) :
    ∀ entry ∈ built, Table.Ordered entry.2 := by
  induction h with
  | nil built world => exact hf
  | cons front call rest world middle after fixture inherited outputs built sent hg hi ho hr' ih =>
    have hmade := ordered_of_buildOne registry hr client caller fixture (mem_of_get? registry _ _ hg)
      call inherited network world outputs middle ho
    apply ih
    intro entry he
    rcases List.mem_append.mp he with he | he
    · exact hf entry he
    · rw [List.mem_singleton.mp he]
      exact hmade

theorem course_buildAll_of_ok (calls plan : List Call) (world reached : World) (built : Built)
    (hp : registry.plan calls = .ok plan)
    (hb : (buildRest registry client caller [] plan).exec network world = (.ok built, reached)) :
    (buildAll registry client caller calls).course network world =
      (buildRest registry client caller [] plan).course network world := by
  rw [buildAll, hp, Trial.course_bind_of_ok network _ _ world world plan rfl, Trial.course_ofExcept,
    List.nil_append, Trial.course_bind_of_ok network _ _ world reached built hb,
    Trial.course_bind_of_ok network _ _ reached (commit caller built reached) () rfl,
    Trial.course_modify, Trial.course_ofExcept, List.append_nil, List.append_nil]

section Goes
variable (world after : World) (marks : List Mark)

/-- A build of a call that goes well goes well in its own scope, and what it has produced is
declared. -/
theorem goes_of_buildOne (fixture : Fixture) (call : Call) (inherited : List Outputs)
    (made : Outputs)
    (h : (buildOne client caller fixture call inherited).Goes network world (.ok made) after
      marks) :
    ∃ produced, (fixture.build ⟨fixture.name, client,
        (fixture.openScope call inherited caller world).1⟩ call.params).Goes network
        (fixture.openScope call inherited caller world).2 (.ok produced) after marks ∧
      fixture.declared produced = .ok made := by
  rw [buildOne] at h
  obtain ⟨scope, opened, _, _, ⟨hopen, rfl⟩, h, rfl⟩ := Trial.goes_of_bind _ _ _ _ _ _ _ h
  cases hopen
  obtain ⟨missing, looked, _, _, ⟨hlook, rfl⟩, h, rfl⟩ := Trial.goes_of_bind _ _ _ _ _ _ _ h
  cases hlook
  cases hmissing : fixture.missingKey? (fixture.openScope call inherited caller world).1
      (fixture.openScope call inherited caller world).2 with
  | some key =>
    rw [hmissing] at h
    cases h.exec
  | none =>
    rw [hmissing] at h
    obtain ⟨produced, middle, front, _, hbuild, ⟨hdeclared, rfl⟩, rfl⟩ :=
      Trial.goes_of_bind _ _ _ _ _ _ _ h
    rw [Trial.exec_ofExcept, Prod.mk.injEq] at hdeclared
    obtain ⟨hdeclared, rfl⟩ := hdeclared
    refine ⟨produced, ?_, hdeclared⟩
    rw [Trial.course_ofExcept, List.append_nil]
    exact Trial.goes_of_mapError network _ _ _ _ produced front hbuild

/-- A plan that goes well goes well at its first call, and then behind it. -/
theorem goes_of_buildRest_cons (built built' : Built) (call : Call) (rest : List Call)
    (h : (buildRest registry client caller built (call :: rest)).Goes network world (.ok built')
      after marks) :
    ∃ fixture inherited made middle front back, registry.get? call.name = some fixture ∧
      fixture.inherited call built = .ok inherited ∧
      (buildOne client caller fixture call inherited).Goes network world (.ok made) middle front ∧
      (buildRest registry client caller (built ++ [(call, made)]) rest).Goes network middle
        (.ok built') after back ∧
      marks = front ++ back := by
  obtain ⟨fixture, inherited, made, middle, hf, hi, ho, hr⟩ :=
    buildRest_cons_ok registry client caller network built built' call rest world after h.exec
  refine ⟨fixture, inherited, made, middle, _, _, hf, hi, ⟨ho, rfl⟩, ⟨hr, rfl⟩, ?_⟩
  rw [← h.course, course_buildRest_cons registry client caller network built call rest world middle
    fixture inherited made hf hi ho]

/-- A resolution that goes well has built its plan, and then writes what is built. -/
theorem goes_of_buildAll (calls : List Call) (results : List Outputs)
    (h : (buildAll registry client caller calls).Goes network world (.ok results) after marks) :
    ∃ plan built reached, registry.plan calls = .ok plan ∧
      (buildRest registry client caller [] plan).Goes network world (.ok built) reached marks ∧
      requested calls built = .ok results ∧ after = commit caller built reached := by
  rcases buildAll_cases registry client caller network calls world after _ h.exec with
    ⟨_, _, ho, _⟩ | ⟨_, _, _, ho, _⟩ | ⟨plan, built, reached, made, hp, ho, hb, hr, rfl⟩
  · cases ho
  · cases ho
  cases ho
  refine ⟨plan, built, reached, hp, ⟨hb, ?_⟩, hr, rfl⟩
  rw [← h.course, course_buildAll_of_ok registry client caller network calls plan world reached
    built hp hb]

end Goes

def builtBy (calls : List Call) (world : World) : Built :=
  match registry.plan calls with
  | .error _ => []
  | .ok plan =>
    match ((buildRest registry client caller [] plan).exec network world).1 with
    | .error _ => []
    | .ok built => built

end Resolution

/-- Resolutions for one scope, one after the other, each with the client of its own. Between them
the world may change, but neither the owners of keys nor the path of the scope. The entries are all
that was built by the resolutions that went well. -/
inductive History (registry : Registry) (caller : ScopeId) (network : Network) (start : World) :
    Built → World → Prop
  | start : History registry caller network start [] start
  | resolved (entries : Built) (world : World) (client : Client) (calls : List Call)
      (h : History registry caller network start entries world) :
      History registry caller network start
        (entries ++ builtBy registry client caller network calls world)
        ((buildAll registry client caller calls).exec network world).2
  | between (entries : Built) (world after : World)
      (h : History registry caller network start entries world)
      (ho : after.owners = world.owners) (hp : after.store.path caller = world.store.path caller)
      (hl : world.store.length ≤ after.store.length) :
      History registry caller network start entries after

section Owners
variable (registry : Registry) (caller : ScopeId) (network : Network)
  (hc : ∀ fixture ∈ registry, fixture.Confined)
include hc

/-- A resolution that goes well makes the last holder of a key its owner, and one that does not
changes no owner. -/
theorem ownerOf?_buildAll (client : Client) (calls : List Call) (world : World)
    (hs : caller < world.store.length) :
    let after := ((buildAll registry client caller calls).exec network world).2
    after.store.path caller = world.store.path caller ∧
    world.store.length ≤ after.store.length ∧
    ∀ key, after.ownerOf? caller key =
      (((builtBy registry client caller network calls world).holder? key).map
        fun entry => entry.1.name).or (world.ownerOf? caller key) := by
  intro after
  have hstay (reached : World) (hg : world.GrowsTo reached) :
      reached.store.path caller = world.store.path caller :=
    Store.path_of_suffix world.store reached.store hg.scopes caller hs
  rcases hx : (buildAll registry client caller calls).exec network world with ⟨outcome, last⟩
  have hlast : after = last := congrArg Prod.snd hx
  rw [hlast]
  rcases buildAll_cases registry client caller network calls world last outcome hx with
    ⟨e, hp, -, rfl⟩ | ⟨plan, e, hp, -, hb⟩ | ⟨plan, built, reached, outputs, hp, -, hb, -, rfl⟩
  · -- Without a plan nothing happens.
    rw [builtBy, hp]
    exact ⟨rfl, Nat.le_refl _, fun key => rfl⟩
  · -- A build failed: only scopes of builds have come on top.
    have hg := growsTo_of_buildRest registry client caller network hc plan [] world last _ hb
    rw [builtBy, hp]
    simp only [hb]
    refine ⟨hstay last hg, hg.scopes.length_le, fun key => ?_⟩
    rw [World.ownerOf?, World.ownerOf?, hstay last hg, hg.owners]
    rfl
  · -- All was built, and then committed.
    have hg := growsTo_of_buildRest registry client caller network hc plan [] world reached _ hb
    have hpath : (commit caller built reached).store.path caller = world.store.path caller := by
      rw [← hstay reached hg]
      exact Store.path_merge reached.store caller caller _
    rw [builtBy, hp]
    simp only [hb]
    refine ⟨hpath, Nat.le_of_lt_succ (Nat.lt_succ_of_le ?_), fun key => ?_⟩
    · show _ ≤ (reached.store.merge caller _).length
      rw [Store.length_merge]
      exact hg.scopes.length_le
    · rw [World.ownerOf?, World.ownerOf?, hpath]
      show (built.foldl (ownersAfter (reached.store.path caller)) reached.owners).get? _ = _
      rw [hstay reached hg, hg.owners, get?_owners]

/-- Behind a history, a key is owned by the last of all entries that hold it. -/
theorem ownerOf?_of_history (start world : World) (entries : Built)
    (hs : caller < start.store.length) (h : History registry caller network start entries world) :
    caller < world.store.length ∧
    ∀ key, world.ownerOf? caller key =
      ((entries.holder? key).map fun entry => entry.1.name).or (start.ownerOf? caller key) := by
  induction h with
  | start => exact ⟨hs, fun key => rfl⟩
  | resolved entries world client calls h ih =>
    obtain ⟨hlt, howner⟩ := ih
    obtain ⟨-, hlength, hstep⟩ :=
      ownerOf?_buildAll registry caller network hc client calls world hlt
    refine ⟨Nat.lt_of_lt_of_le hlt hlength, fun key => ?_⟩
    rw [hstep key, howner key, Built.holder?_append, Option.map_or, Option.or_assoc]
  | between entries world after h ho hp hl ih =>
    refine ⟨Nat.lt_of_lt_of_le ih.1 hl, fun key => ?_⟩
    rw [World.ownerOf?, ho, hp]
    exact ih.2 key

end Owners

/-- The outputs that are returned for a call are those of the entry of its identity. -/
theorem entries_of_requested (registry : Registry) (calls : List Call) (built : Built)
    (outputs : List Outputs) (hb : built.Faithful registry)
    (h : requested calls built = .ok outputs) :
    List.Forall₂ (fun call made => ∃ entry : Call, (entry, made) ∈ built ∧
      entry.identity = call.identity ∧
      (∀ key, key ∈ Table.keys made ↔ registry.Declares entry key) ∧
      (entry.name = call.name → ∀ key, key ∈ Table.keys made ↔ registry.Declares call key))
      calls outputs := by
  refine ((mapM_eq_ok_iff _ _ _).mp h).imp ?_
  intro call made hm
  cases ho : built.outputs? call with
  | none => simp [ho] at hm
  | some found =>
    obtain rfl : found = made := by simpa [ho] using hm
    obtain ⟨⟨entry, made⟩, hfind, rfl⟩ := Option.map_eq_some_iff.mp ho
    have hmem := List.mem_of_find?_eq_some hfind
    have hidentity : entry.identity = call.identity := by simpa using List.find?_some hfind
    refine ⟨entry, hmem, hidentity, hb _ hmem, fun hname key => ?_⟩
    rw [hb _ hmem key, Registry.Declares, Registry.Declares, hname]

/-- A resolution that goes well builds the calls of its plan, each identity once and in order, and
sends the requests of these builds and no others. It returns for each call the outputs of the entry
of its identity, which are those that the fixture of this entry declares. Of the caller's variables
it changes those that an entry holds, to the value of the last such entry, whose fixture is the
owner of the key from then on: the last of all resolutions so far. -/
theorem buildAll_commits (registry : Registry) (caller : ScopeId) (network : Network)
    (hr : registry.IsStandard) (start world : World) (entries : Built)
    (hs : caller < start.store.length) (hh : History registry caller network start entries world)
    (client : Client) (calls : List Call) (outputs : List Outputs) (after : World)
    (h : (buildAll registry client caller calls).exec network world = (.ok outputs, after)) :
    ∃ plan built reached, registry.plan calls = .ok plan ∧ (plan.map Call.identity).Nodup ∧
      built.calls = plan ∧
      BuiltInTurn registry client caller network [] plan world built
        (Mark.requests ((buildAll registry client caller calls).course network world)) reached ∧
      List.Forall₂ (fun call made => ∃ entry : Call, (entry, made) ∈ built ∧
        entry.identity = call.identity ∧
        (∀ key, key ∈ Table.keys made ↔ registry.Declares entry key) ∧
        (entry.name = call.name → ∀ key, key ∈ Table.keys made ↔ registry.Declares call key))
        calls outputs ∧
      (∀ key, after.store.lookup caller key =
        ((built.holder? key).bind fun entry => entry.2.get? key).or
          (world.store.lookup caller key)) ∧
      ∀ key, after.ownerOf? caller key =
        (((entries ++ built).holder? key).map fun entry => entry.1.name).or
          (start.ownerOf? caller key) := by
  have hc : ∀ fixture ∈ registry, fixture.Confined := fun fixture hf =>
    confined_of_contained fixture (Registry.contained_of_isStandard registry hr fixture hf)
  obtain ⟨hlt, howner⟩ := ownerOf?_of_history registry caller network hc start world entries hs hh
  obtain ⟨-, -, hstep⟩ := ownerOf?_buildAll registry caller network hc client calls world hlt
  rcases buildAll_cases registry client caller network calls world after _ h with
    ⟨_, _, ho, _⟩ | ⟨_, _, _, ho, _⟩ | ⟨plan, built, reached, made, hp, ho, hb, hreq, rfl⟩
  · cases ho
  · cases ho
  cases ho
  have hcalls := calls_of_buildRest registry client caller network plan [] built world reached hb
  have hfaith := faithful_of_buildRest registry client caller network plan [] built world reached
    nofun hb
  have hgrows := growsTo_of_buildRest registry client caller network hc plan [] world reached _ hb
  have hturn := builtInTurn_of_buildRest registry client caller network plan [] built world reached hb
  have hordered := ordered_of_builtInTurn registry client caller network hr [] plan world reached built
    _ nofun hturn
  have hbuilt : builtBy registry client caller network calls world = built := by
    rw [builtBy, hp]
    simp only [hb]
  have hnodup := (Registry.settled_of_plan registry calls plan hp).nodup
  rw [← course_buildAll_of_ok registry client caller network calls plan world reached built hp hb]
    at hturn
  refine ⟨plan, built, reached, hp, hnodup, hcalls, hturn,
    entries_of_requested registry calls built outputs hfaith hreq, fun key => ?_, fun key => ?_⟩
  · rw [lookup_commit caller built world reached key hgrows hlt, Built.get?_outputs built hordered]
  · rw [h, hbuilt] at hstep
    rw [hstep key, howner key, Built.holder?_append, Option.map_or, Option.or_assoc]

def probe (name key : String) : Recipe where
  name := name
  steps := [{ name := "ping", request := .new .get "/ping", extract := [(key, "status")] }]
  outputs := [key]

def probes : Registry :=
  [(probe "a" "right").fixture, (probe "a\x7b\"x\":1\x7d" "left").fixture]

/-- The two calls are one entry of the plan, so that the second gets what the fixture of the first
declares. The key of the second still belongs to the resolution before. -/
theorem buildAll_commits_probes :
    let client : Client := .new "http://api.test" 30000
    let network : Network := fun _ _ => .answered 0 ⟨200, [], []⟩
    let start : World := ⟨[⟨"root", none, []⟩], [], []⟩
    let world := ((buildAll probes client 0 [⟨"a", []⟩]).exec network start).2
    let calls : List Call := [⟨"a\x7b\"x\":1\x7d", []⟩, ⟨"a", [("x", .int 1)]⟩]
    ∃ outputs after, (buildAll probes client 0 calls).exec network world = (.ok outputs, after) ∧
      outputs.map Table.keys = [["left"], ["left"]] ∧
      after.ownerOf? 0 "left" = some "a\x7b\"x\":1\x7d" ∧ after.ownerOf? 0 "right" = some "a" ∧
      ∃ plan, probes.plan calls = .ok plan ∧ (plan.map Call.identity).Nodup := by
  intro client network start world calls
  have hkeys : (match ((buildAll probes client 0 calls).exec network world).1 with
      | .ok outputs => outputs.map Table.keys
      | .error _ => []) = [["left"], ["left"]] := by decide +kernel
  have hleft : ((buildAll probes client 0 calls).exec network world).2.ownerOf? 0 "left" =
      some "a\x7b\"x\":1\x7d" := by decide +kernel
  have hright : ((buildAll probes client 0 calls).exec network world).2.ownerOf? 0 "right" =
      some "a" := by decide +kernel
  have hstandard : probes.IsStandard := by
    intro fixture hf
    rcases List.mem_pair.mp hf with rfl | rfl
    · exact Or.inr ⟨_, rfl⟩
    · exact Or.inr ⟨_, rfl⟩
  have hstart : History probes 0 network start [] start := .start
  have hhistory := History.resolved [] start client [⟨"a", []⟩] hstart
  rcases h : (buildAll probes client 0 calls).exec network world with ⟨outcome, after⟩
  rw [h] at hkeys hleft hright
  cases outcome with
  | error e => cases hkeys
  | ok outputs =>
    obtain ⟨plan, _, _, hp, hnodup, -⟩ := buildAll_commits probes 0 network hstandard start world _
      (by decide) hhistory client calls outputs after h
    exact ⟨outputs, after, rfl, hkeys, hleft, hright, plan, hp, hnodup⟩

end Fixture

end ApiTrial
