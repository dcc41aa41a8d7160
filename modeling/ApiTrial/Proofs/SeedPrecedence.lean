import ApiTrial.Command.Run
import ApiTrial.Proofs.RoutineOutcome
import ApiTrial.Proofs.StoreHistory

/-! Which value wins under a key that is set at the start. A variable of the process goes before a
token or the server of a file, and a server on the command line goes before both. The variables of
the file are set last, though: one with the key of a token or of the server is what requests see,
while the client keeps to the server that has won. -/
namespace ApiTrial

namespace Store

theorem length_foldl_set (scope : ScopeId) (entries : List (String × Json)) (store : Store) :
    (entries.foldl (fun store (key, value) => store.set scope key value) store).length =
      store.length := by
  induction entries generalizing store with
  | nil => rfl
  | cons entry rest ih => exact (ih _).trans (length_modify _ _ _)

/-- Behind writes to a scope it sees the last value under each of their keys. -/
theorem lookup_foldl_set (scope : ScopeId) (entries : List (String × Json)) (store : Store)
    (hs : scope < store.length) (key : String) :
    (entries.foldl (fun store (key, value) => store.set scope key value) store).lookup scope key =
      (Table.get? key (Table.ofEntries entries)).or (store.lookup scope key) := by
  induction entries generalizing store with
  | nil => rfl
  | cons entry rest ih =>
    obtain ⟨k, value⟩ := entry
    have hlength : (store.set scope k value).length = store.length := length_modify _ _ _
    rw [List.foldl_cons, ih _ (hlength ▸ hs), lookup_set store scope k value hs,
      Table.get?_ofEntries_cons]
    cases Table.get? key (Table.ofEntries rest) with
    | some later => rfl
    | none => split <;> rfl

end Store

namespace Config

section Decoding
variable {σ : Type} [Source σ]

/-- The variables of a configuration are read from the field of that name, if it is there. -/
theorem presets_of_decode (source : σ) (config : Config) (n m : Nat)
    (h : decode source n = some (config, m)) :
    ∃ record k k' l, Source.record ["server", "tokens", "variables", "runner"] source n =
        some (record, k) ∧
      record.withDefault "variables" [] (Source.tableOf Source.json) k' =
        some (config.presets, l) := by
  simp only [decode, bind, StateT.bind, Option.bind_eq_some_iff, Prod.exists] at h
  obtain ⟨record, k, hrecord, server, _, -, tokens, k', -, presets, l, hpresets, runner, _, -, h⟩ :=
    h
  cases h
  exact ⟨record, k, k', l, hrecord, hpresets⟩

/-- The variables of a configuration are read with their keys in order. -/
theorem ordered_presets_of_decode (source : σ) (config : Config) (n m : Nat)
    (h : decode source n = some (config, m)) : config.presets.Ordered := by
  obtain ⟨record, -, k, l, -, hpresets⟩ := presets_of_decode source config n m h
  rw [Record.withDefault] at hpresets
  cases hfield : record.field? "variables" with
  | none =>
    rw [hfield] at hpresets
    have hnone : config.presets = [] := (congrArg Prod.fst (Option.some.inj hpresets)).symm
    rw [hnone]
    exact List.Pairwise.nil
  | some field =>
    rw [hfield] at hpresets
    simp only [Source.tableOf, bind, StateT.bind, Option.bind_eq_some_iff, Prod.exists] at hpresets
    obtain ⟨given, k', hgiven, entries, k'', hentries, he⟩ := hpresets
    have htable : config.presets = Table.ofEntries entries :=
      (congrArg Prod.fst (Option.some.inj he)).symm
    rw [htable]
    exact Table.ordered_ofEntries entries

end Decoding

theorem decode_of_parse (text : String) (config : Config) (h : parse text = .ok config) :
    ∃ data m, Toml.read? text = some data ∧ decode data 0 = some (config, m) := by
  rw [parse] at h
  split at h
  · rename_i found hfound
    obtain ⟨data, hdata, hrun⟩ := Option.bind_eq_some_iff.mp hfound
    obtain ⟨⟨decoded, m⟩, hdecode, rfl⟩ := Option.map_eq_some_iff.mp hrun
    cases h
    exact ⟨data, m, hdata, hdecode⟩
  · cases h

/-- A configuration is written down: in the file at a given path, or else in the usual file if it is
there, or else nowhere, and then it is the default one. -/
inductive Written (files : Files) : (usual? path? : Option String) → Config → Prop
  | given (usual? : Option String) (path text : String) (config : Config)
      (hfile : files.readText path = .ok text) (hparse : parse text = .ok config) :
      Written files usual? (some path) config
  | usual (path text : String) (config : Config) (hthere : files.hasPath path = true)
      (hfile : files.readText path = .ok text) (hparse : parse text = .ok config) :
      Written files (some path) none config
  | nowhere (usual? : Option String) (hmissing : ∀ path ∈ usual?, files.hasPath path = false) :
      Written files usual? none {}

variable {files : Files} {usual? path? : Option String} {written : Config}

/-- What is written down is loaded, with the overrides of the process. -/
theorem load_of_written (process : String → Option String)
    (h : Written files usual? path? written) :
    load files process usual? path? = .ok (written.override process) := by
  have hread (path text : String) (config : Config) (hfile : files.readText path = .ok text)
      (hparse : parse text = .ok config) : ofFile files path = .ok config := by
    rw [ofFile, hfile]
    exact hparse
  cases h with
  | given _ path text _ hfile hparse =>
    rw [load, hread path text written hfile hparse]
    rfl
  | usual path text _ hthere hfile hparse =>
    simp only [load, hthere, hread path text written hfile hparse]
    rfl
  | nowhere _ hmissing =>
    cases usual? with
    | none => rfl
    | some path =>
      have hnot := hmissing path rfl
      simp only [load, hnot]
      rfl

theorem ordered_presets (h : Written files usual? path? written) : written.presets.Ordered := by
  have hparsed (text : String) (config : Config) (hparse : parse text = .ok config) :
      config.presets.Ordered := by
    obtain ⟨data, m, -, hdecode⟩ := decode_of_parse text config hparse
    exact ordered_presets_of_decode data config 0 m hdecode
  cases h with
  | given _ path text _ hfile hparse => exact hparsed text written hparse
  | usual path text _ hthere hfile hparse => exact hparsed text written hparse
  | nowhere _ hmissing => exact List.Pairwise.nil

inductive Role where
  | orgMember | orgBoxoffice | user
  deriving DecidableEq, Repr

namespace Role

def word : Role → String
  | orgMember => "org_member"
  | orgBoxoffice => "org_boxoffice"
  | user => "user"

def processVariable : Role → String
  | orgMember => orgMemberVariable
  | orgBoxoffice => orgBoxofficeVariable
  | user => userVariable

def entry? : Role → Tokens → Option String
  | orgMember => Tokens.orgMember
  | orgBoxoffice => Tokens.orgBoxoffice
  | user => Tokens.user

end Role

variable (process : String → Option String) (server? : Option String)

def token? (written : Config) (role : Role) : Option String :=
  (process role.processVariable).or (role.entry? written.tokens)

def address (written : Config) : String :=
  server?.getD ((process serverVariable).getD written.server.baseUrl)

/-- The file has no variable under a key, or just the value that is given there. -/
def LeavesAsGiven (written : Config) (key : String) (given : Option Json) : Prop :=
  ∀ preset, (key, preset) ∈ written.presets → given = some preset

theorem entry?_override (written : Config) (role : Role) :
    role.entry? (written.override process).tokens = token? process written role := by
  cases role with
  | orgMember => exact Option.orElse_eq_or ..
  | orgBoxoffice => exact Option.orElse_eq_or ..
  | user => exact Option.orElse_eq_or ..

section Seeding
variable (config : Config) (scope : ScopeId) (store : Store)

def gifts : List (String × Json) :=
  (serverKey, .str config.server.baseUrl) ::
    config.tokens.toList.map fun (role, token) => (tokenKey role, .str token)

theorem get?_gifts_tokenKey (role : Role) :
    Table.get? (tokenKey role.word) (Table.ofEntries config.gifts) =
      (role.entry? config.tokens).map .str := by
  obtain ⟨-, ⟨orgMember, orgBoxoffice, user⟩, -, -⟩ := config
  cases role <;> cases orgMember <;> cases orgBoxoffice <;> cases user <;>
    simp [gifts, Tokens.toList, Table.get?_ofEntries_cons, Table.get?_ofEntries_nil, tokenKey,
      serverKey, Role.word, Role.entry?]

theorem get?_gifts_serverKey : Table.get? serverKey (Table.ofEntries config.gifts) =
    some (.str config.server.baseUrl) := by
  obtain ⟨-, ⟨orgMember, orgBoxoffice, user⟩, -, -⟩ := config
  cases orgMember <;> cases orgBoxoffice <;> cases user <;>
    simp [gifts, Tokens.toList, Table.get?_ofEntries_cons, Table.get?_ofEntries_nil, tokenKey,
      serverKey]

/-- A variable of the file is seen as it is there, and any other key as it was given before. -/
theorem lookup_seed (hs : scope < store.length) (ho : config.presets.Ordered) (key : String) :
    (config.seed scope store).lookup scope key = (Table.get? key config.presets).or
      ((Table.get? key (Table.ofEntries config.gifts)).or (store.lookup scope key)) := by
  have hseeds : config.seeds = config.gifts ++ config.presets := rfl
  rw [seed, hseeds, List.foldl_append,
    Store.lookup_foldl_set scope _ _ (by rwa [Store.length_foldl_set]),
    Store.lookup_foldl_set scope _ _ hs, Table.get?_ofEntries_of_ordered _ _ ho]

end Seeding

theorem or_eq_iff_leavesAsGiven (ho : written.presets.Ordered) (key : String)
    (given : Option Json) :
    (Table.get? key written.presets).or given = given ↔ written.LeavesAsGiven key given := by
  simp only [LeavesAsGiven, ← Table.get?_eq_some_iff written.presets key _ ho]
  cases Table.get? key written.presets with
  | none => simp
  | some preset => simp [eq_comm]

end Config

/-- The client leaves out the slashes at the end of an address, and nothing else. -/
theorem Url.exists_slashes (text : String) :
    (∃ slashes, text = Url.trimSlashes text ++ String.ofList (List.replicate slashes '/')) ∧
      (Url.trimSlashes text).toList.getLast? ≠ some '/' := by
  have hsplit := List.takeWhile_append_dropWhile (p := (· == '/')) (l := text.toList.reverse)
  have hslashes : text.toList.reverse.takeWhile (· == '/') =
      List.replicate (text.toList.reverse.takeWhile (· == '/')).length '/' := by
    rw [List.eq_replicate_iff]
    refine ⟨rfl, fun c hc => ?_⟩
    simpa using List.all_eq_true.mp List.all_takeWhile c hc
  refine ⟨⟨(text.toList.reverse.takeWhile (· == '/')).length, ?_⟩, ?_⟩
  · apply String.toList_injective
    rw [Url.trimSlashes, String.toList_append, String.toList_ofList, String.toList_ofList,
      ← List.reverse_replicate, ← hslashes, ← List.reverse_append, hsplit, List.reverse_reverse]
  · rw [Url.trimSlashes, String.toList_ofList, List.getLast?_reverse]
    intro hhead
    have hnot := List.head?_dropWhile_not (· == '/') text.toList.reverse
    rw [hhead] at hnot
    simp at hnot

namespace Config
variable {files : Files} {usual? path? : Option String} {written : Config}

/-- With what is written down, a bench always comes about. It sees the token that a role is given,
and the address that is given for the server, exactly if no variable of the file has that key with
another value; such a variable is seen in its place. The client sends to the address that is given
for the server, less the slashes at its end. -/
theorem overrides_seen_iff (process : String → Option String) (server? : Option String)
    (recipes : List Recipe) (h : Written files usual? path? written) :
    ∃ config, load files process usual? path? = .ok config ∧
      let bench := Bench.new (config.withServer server?) recipes
      let seen := bench.world.store.lookup Bench.scope
      let address := address process server? written
      (∀ role : Role, let token := (token? process written role).map Json.str
        (seen (tokenKey role.word) = token ↔ written.LeavesAsGiven (tokenKey role.word) token)) ∧
      (seen serverKey = some (.str address) ↔
        written.LeavesAsGiven serverKey (some (.str address))) ∧
      (∀ key preset, (key, preset) ∈ written.presets → seen key = some preset) ∧
      bench.runner.client.base.toList.getLast? ≠ some '/' ∧
      ∃ slashes, address =
        bench.runner.client.base ++ String.ofList (List.replicate slashes '/') := by
  have ho := ordered_presets h
  refine ⟨written.override process, load_of_written process h, ?_⟩
  intro bench seen address
  have hseen (key : String) : seen key = (Table.get? key written.presets).or
      (Table.get? key (Table.ofEntries
        ((written.override process).withServer server?).gifts)) := by
    have hstore := lookup_seed ((written.override process).withServer server?) Bench.scope
      (Store.addRoot []).1 (by decide) ho key
    have hempty : Store.lookup (Store.addRoot []).1 Bench.scope key = none := rfl
    rw [hempty, Option.or_none] at hstore
    exact hstore
  obtain ⟨hslashes, hlast⟩ := Url.exists_slashes address
  refine ⟨?_, ?_, ?_, hlast, hslashes⟩
  · intro role token
    rw [hseen, get?_gifts_tokenKey, ← or_eq_iff_leavesAsGiven ho]
    have htoken : role.entry? ((written.override process).withServer server?).tokens =
        token? process written role := entry?_override process written role
    rw [htoken]
  · rw [hseen, get?_gifts_serverKey]
    exact or_eq_iff_leavesAsGiven ho serverKey (some (.str address))
  · intro key preset hm
    rw [hseen, (Table.get?_eq_some_iff written.presets key preset ho).mpr hm, Option.some_or]

def staleText : String :=
  "[tokens]\nuser = \"filed\"\n\n[variables]\nregion = \"north\"\nuser_token = \"stale\"\n"

def staleFiles : Files := ⟨.directory [("trial.toml", .file staleText.toUTF8.data.toList)], []⟩

def staleConfig : Config := (parse staleText).toOption.getD {}

theorem written_staleFiles : Written staleFiles none (some "trial.toml") staleConfig := by
  have hread : staleFiles.readText "trial.toml" = .ok staleText := by decide +kernel
  have hparse : parse staleText = .ok staleConfig :=
    eq_ok_of_toBool (parse staleText) {} (by decide +kernel)
  exact .given none "trial.toml" staleText staleConfig hread hparse

def givingProcess (name : String) : Option String :=
  if name = userVariable then some "fresh"
  else if name = orgMemberVariable then some "member"
  else none

/-- The member's token of the process is seen, and the user's is not: the file has a variable with
its key. -/
theorem overrides_seen_iff_stale :
    Written staleFiles none (some "trial.toml") staleConfig ∧
    ∃ config, load staleFiles givingProcess none (some "trial.toml") = .ok config ∧
      let bench := Bench.new (config.withServer (some "http://api.test//")) []
      let seen := bench.world.store.lookup Bench.scope
      seen "org_member_token" = some (.str "member") ∧
      seen "user_token" ≠ some (.str "fresh") ∧ seen "user_token" = some (.str "stale") ∧
      seen serverKey = some (.str "http://api.test//") := by
  obtain ⟨config, hload, htoken, hserver, hpreset, -, -⟩ :=
    overrides_seen_iff givingProcess (some "http://api.test//") [] written_staleFiles
  have hkeys : staleConfig.presets.map (·.1) = ["region", "user_token"] := by decide +kernel
  have hstale : ("user_token", Json.str "stale") ∈ staleConfig.presets := by
    rw [← Table.get?_eq_some_iff _ _ _ (ordered_presets written_staleFiles)]
    have htext : (Table.get? "user_token" staleConfig.presets).bind Json.str? = some "stale" := by
      decide +kernel
    obtain ⟨preset, hget, hstr⟩ := Option.bind_eq_some_iff.mp htext
    cases preset <;> cases hstr
    exact hget
  have hleft (key : String) (given : Option Json) (hk : key ∉ ["region", "user_token"]) :
      staleConfig.LeavesAsGiven key given := by
    intro preset hm
    exact absurd (hkeys ▸ List.mem_map_of_mem hm) hk
  refine ⟨written_staleFiles, config, hload, ?_, ?_, ?_, ?_⟩
  · exact (htoken .orgMember).mpr (hleft _ _ (by decide))
  · intro hfresh
    have hgiven := (htoken .user).mp hfresh (.str "stale") hstale
    exact absurd (Json.str.inj (Option.some.inj hgiven)) (by decide)
  · exact hpreset "user_token" (.str "stale") hstale
  · exact hserver.mpr (hleft _ _ (by decide))

end Config
end ApiTrial
