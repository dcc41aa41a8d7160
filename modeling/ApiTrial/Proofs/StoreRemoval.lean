import ApiTrial.Proofs.StoreHistory
import ApiTrial.Scenario.Run

/-! What becomes of a removed key. A removal marks the key if the parent sees it at that time and
deletes the slot otherwise, so a scope goes on to hide the key only in the first case; in the second
it shows whatever its parent comes to hold, until it writes the key itself. -/
namespace ApiTrial
namespace Store

namespace Op

def scope? : Op → Option ScopeId
  | addRoot => none
  | isolate scope _ => some scope
  | freeze scope => some scope
  | clone scope => some scope
  | set scope _ _ => some scope
  | remove scope _ => some scope
  | merge scope _ => some scope

/-- An operation writes or removes a key in a scope. -/
def Touches (scope : ScopeId) (key : String) : Op → Prop
  | set s k _ => s = scope ∧ k = key
  | remove s k => s = scope ∧ k = key
  | merge s values => s = scope ∧ key ∈ values.map (·.1)
  | _ => False

end Op

/-- The stores that operations on existing scopes lead to. -/
inductive Reachable : Store → Prop
  | empty : Reachable []
  | step (store : Store) (op : Op) (h : Reachable store)
      (hs : ∀ scope, op.scope? = some scope → scope < store.length) : Reachable (op.apply store)

def Rooted (store : Store) : Prop :=
  ∀ id s parent, store.scope? id = some s → s.parent = some parent → parent < id

/-- A write changes slots that it touches, in its scope. -/
theorem exists_modify (store : Store) (op : Op) (scope : ScopeId) (ht : op.target? = some scope) :
    ∃ f : Table (Option Json) → Table (Option Json),
      op.apply store = store.modify (fun s => { s with slots := f s.slots }) scope ∧
      ∀ key slots, ¬ op.Touches scope key → (f slots).get? key = slots.get? key := by
  cases op with
  | set s key value =>
    cases ht
    refine ⟨fun slots => slots.insert key (some value), rfl, ?_⟩
    intro k slots hk
    rw [Table.get?_insert, if_neg fun he => hk ⟨rfl, he⟩]
  | remove s key =>
    cases ht
    simp only [Op.apply, remove]
    split
    · refine ⟨fun slots => slots.insert key none, rfl, ?_⟩
      intro k slots hk
      rw [Table.get?_insert, if_neg fun he => hk ⟨rfl, he⟩]
    · refine ⟨fun slots => slots.erase key, rfl, ?_⟩
      intro k slots hk
      rw [Table.get?_erase, if_neg fun he => hk ⟨rfl, he⟩]
  | merge s values =>
    cases ht
    refine ⟨fun slots => slots.insertAll (values.map fun e => (e.1, some e.2)), rfl, ?_⟩
    intro k slots hk
    have hnone : Table.get? k (Table.ofEntries values) = none := by
      rw [← Option.not_isSome_iff_eq_none, Table.get?_ofEntries_isSome_iff]
      exact fun hm => hk ⟨rfl, hm⟩
    rw [Table.get?_insertAll, Table.get?_ofEntries_map, hnone, Option.map_none, Option.none_or]
  | _ => cases ht

/-- An operation adds a scope, of which its own is the parent if there is one, or changes slots that
it touches. -/
theorem apply_cases (store : Store) (op : Op) :
    (∃ s, op.apply store = s :: store ∧
      ∀ parent, s.parent = some parent → op.scope? = some parent) ∨
    (∃ scope, ∃ f : Table (Option Json) → Table (Option Json),
      op.apply store = store.modify (fun s => { s with slots := f s.slots }) scope ∧
      ∀ key slots, ¬ op.Touches scope key → (f slots).get? key = slots.get? key) ∨
    op.apply store = store := by
  cases op with
  | addRoot => exact Or.inl ⟨_, rfl, nofun⟩
  | isolate scope name => exact Or.inl ⟨_, rfl, fun parent hp => hp⟩
  | freeze scope => exact Or.inl ⟨_, rfl, nofun⟩
  | clone scope => exact Or.inr (Or.inr rfl)
  | set scope key value => exact Or.inr (Or.inl ⟨scope, exists_modify store _ scope rfl⟩)
  | remove scope key => exact Or.inr (Or.inl ⟨scope, exists_modify store _ scope rfl⟩)
  | merge scope values => exact Or.inr (Or.inl ⟨scope, exists_modify store _ scope rfl⟩)

theorem lt_of_scope? (store : Store) (id : Nat) (s : Scope) (h : store.scope? id = some s) :
    id < store.length := by
  induction store with
  | nil => cases h
  | cons t older ih =>
    rw [scope?] at h
    split at h
    · rename_i hi
      exact hi ▸ Nat.lt_succ_self _
    · exact Nat.lt_succ_of_lt (ih h)

theorem scope?_of_lt (store : Store) (id : Nat) (h : id < store.length) :
    ∃ s, store.scope? id = some s := by
  induction store with
  | nil => exact absurd h (Nat.not_lt_zero id)
  | cons t older ih =>
    rw [scope?]
    split
    · exact ⟨t, rfl⟩
    · rename_i hi
      exact ih (lt_of_le_of_ne (Nat.le_of_lt_succ h) hi)

theorem scope?_modify (store : Store) (change : Scope → Scope) (id other : Nat) :
    scope? (store.modify change id) other =
      (store.scope? other).map fun s => if other = id then change s else s := by
  by_cases he : other = id
  · subst he
    induction store with
    | nil => rfl
    | cons s older ih =>
      rw [modify]
      split
      · rename_i hi
        rw [scope?, scope?, if_pos hi, if_pos hi, Option.map_some, if_pos rfl]
      · rename_i hi
        rw [scope?, scope?, length_modify, if_neg hi, if_neg hi, ih]
  · rw [scope?_modify_of_ne store change id other he]
    simp [he]

/-- An operation on scopes that are there leaves every parent older than its children. -/
theorem rooted_apply (store : Store) (op : Op) (h : store.Rooted)
    (hs : ∀ scope, op.scope? = some scope → scope < store.length) : Rooted (op.apply store) := by
  intro id s parent hid hp
  rcases apply_cases store op with ⟨new, he, hnew⟩ | ⟨scope, f, he, -⟩ | he
  · rw [he, scope?] at hid
    split at hid
    · rename_i hi
      cases hid
      rw [hi]
      exact hs parent (hnew parent hp)
    · exact h id s parent hid hp
  · rw [he, scope?_modify] at hid
    obtain ⟨old, ho, rfl⟩ := Option.map_eq_some_iff.mp hid
    refine h id old parent ho ?_
    split at hp <;> exact hp
  · rw [he] at hid
    exact h id s parent hid hp

theorem rooted_of_reachable (store : Store) (h : Reachable store) : store.Rooted := by
  induction h with
  | empty => exact fun id s parent hid => by cases hid
  | step store op h hs ih => exact rooted_apply store op ih hs

theorem lookup_of_length_le (store : Store) (id : Nat) (key : String) (h : store.length ≤ id) :
    store.lookup id key = none := by
  induction store with
  | nil => rfl
  | cons s older ih =>
    rw [List.length_cons] at h
    have hn : id ≠ older.length := by omega
    rw [lookup, if_neg hn, ih (by omega)]

/-- A read is answered by the scope's own slot, or else by a parent made before the scope. -/
theorem lookup_eq (store : Store) (id : Nat) (key : String) :
    store.lookup id key = (store.scope? id).bind fun s =>
      (s.slots.get? key).getD (s.parent.bind fun parent : Nat =>
        if parent < id then store.lookup parent key else none) := by
  induction store with
  | nil => rfl
  | cons t older ih =>
    rw [lookup, scope?]
    by_cases hi : id = older.length
    · rw [if_pos hi, if_pos hi, Option.bind_some]
      cases hs : t.slots.get? key with
      | some slot => rfl
      | none =>
        rw [Option.getD_none]
        show t.parent.bind (fun parent => lookup older parent key) = _
        congr 1
        funext parent
        split
        · exact (lookup_append [t] older parent key (by omega)).symm
        · exact lookup_of_length_le older parent key (by omega)
    · rw [if_neg hi, if_neg hi, ih]
      cases hs : scope? older id with
      | none => rfl
      | some s =>
        have hid := lt_of_scope? older id s hs
        simp only [Option.bind_some]
        congr 2
        funext parent
        split
        · exact (lookup_append [t] older parent key (by omega)).symm
        · rfl

/-- A read is answered by the scope's own slot, or else by the parent. -/
theorem lookup_of_scope? (store : Store) (id : Nat) (s : Scope) (key : String)
    (h : store.scope? id = some s) (hp : ∀ parent, s.parent = some parent → parent < id) :
    store.lookup id key =
      (s.slots.get? key).getD (s.parent.bind fun parent => store.lookup parent key) := by
  rw [lookup_eq, h, Option.bind_some]
  cases hs : s.parent with
  | none => rfl
  | some parent => rw [Option.bind_some, Option.bind_some, if_pos (hp parent hs)]

/-- An operation that does not touch a key of a scope keeps its slot, and no operation changes the
parent of a scope. -/
theorem slot_apply (store : Store) (op : Op) (id : Nat) (s : Scope) (key : String)
    (h : store.scope? id = some s) (ht : ¬ op.Touches id key) :
    ∃ s', (op.apply store).scope? id = some s' ∧ s'.parent = s.parent ∧
      s'.slots.get? key = s.slots.get? key := by
  rcases apply_cases store op with ⟨new, he, -⟩ | ⟨scope, f, he, hf⟩ | he
  · refine ⟨s, ?_, rfl, rfl⟩
    rw [he, scope?_cons_of_lt store new id (lt_of_scope? store id s h), h]
  · rw [he, scope?_modify, h, Option.map_some]
    by_cases hi : id = scope
    · subst hi
      rw [if_pos rfl]
      exact ⟨_, rfl, rfl, hf key s.slots ht⟩
    · rw [if_neg hi]
      exact ⟨s, rfl, rfl, rfl⟩
  · exact ⟨s, by rw [he, h], rfl, rfl⟩

theorem slot_after (store : Store) (later : List Op) (id : Nat) (s : Scope) (key : String)
    (h : store.scope? id = some s) (ht : ∀ op ∈ later, ¬ op.Touches id key) :
    ∃ s', (store.after later).scope? id = some s' ∧ s'.parent = s.parent ∧
      s'.slots.get? key = s.slots.get? key := by
  induction later generalizing store s with
  | nil => exact ⟨s, h, rfl, rfl⟩
  | cons op rest ih =>
    obtain ⟨s', hs', hparent', hslot'⟩ := slot_apply store op id s key h (ht op List.mem_cons_self)
    obtain ⟨t, hreached, hparent, hslot⟩ := ih (op.apply store) s' hs' fun o ho =>
      ht o (List.mem_cons_of_mem _ ho)
    exact ⟨t, hreached, hparent.trans hparent', hslot.trans hslot'⟩

/-- A removal leaves a mark if the parent sees the key, and no slot otherwise. -/
theorem slot_remove (store : Store) (id : Nat) (s : Scope) (key : String)
    (h : store.scope? id = some s) :
    ∃ s', (store.remove id key).scope? id = some s' ∧ s'.parent = s.parent ∧
      s'.slots.get? key = if store.parentHas id key then some none else none := by
  rw [remove]
  split
  · rw [scope?_modify, h, Option.map_some, if_pos rfl]
    exact ⟨_, rfl, rfl, Table.get?_insert_self key none s.slots⟩
  · rw [scope?_modify, h, Option.map_some, if_pos rfl]
    refine ⟨_, rfl, rfl, ?_⟩
    rw [Table.get?_erase, if_pos rfl]

theorem parentHas_eq (store : Store) (id : Nat) (s : Scope) (key : String)
    (h : store.scope? id = some s) :
    store.parentHas id key = (s.parent.bind fun parent => store.lookup parent key).isSome := by
  rw [parentHas, h]
  cases hs : s.parent with
  | none => simp [hs]
  | some parent => simp [hs, has]

theorem lookup_cons_of_lt (older : Store) (s : Scope) (id : Nat) (key : String)
    (h : id < older.length) : lookup (s :: older) id key = older.lookup id key :=
  lookup_append [s] older id key h

/-- Without a slot of its own, a scope shows what an older parent shows. -/
theorem lookup_erase_self (store : Store) (id : Nat) (key : String) (hid : id < store.length) :
    (store.modify (fun s => { s with slots := s.slots.erase key }) id).lookup id key =
      ((store.scope? id).bind Scope.parent).bind fun parent =>
        if parent < id then store.lookup parent key else none := by
  induction store with
  | nil => exact absurd hid (Nat.not_lt_zero id)
  | cons s older ih =>
    rw [modify, scope?]
    by_cases he : id = older.length
    · have hslot : (s.slots.erase key).get? key = none := by rw [Table.get?_erase, if_pos rfl]
      rw [if_pos he, if_pos he, lookup, if_pos he, hslot]
      show s.parent.bind _ = s.parent.bind _
      congr 1
      funext parent
      by_cases hlt : parent < id
      · rw [if_pos hlt, lookup_cons_of_lt older s parent key (he ▸ hlt)]
      · rw [if_neg hlt, lookup_of_length_le older parent key (he ▸ Nat.not_lt.mp hlt)]
    · have hl : id < older.length := lt_of_le_of_ne (Nat.le_of_lt_succ hid) he
      rw [if_neg he, if_neg he, lookup, length_modify, if_neg he, ih hl]
      congr 1
      funext parent
      by_cases hlt : parent < id
      · rw [if_pos hlt, if_pos hlt, lookup_cons_of_lt older s parent key (hlt.trans hl)]
      · rw [if_neg hlt, if_neg hlt]

/-- Right behind its removal a key is not set, whatever the parent holds. -/
theorem lookup_remove_self (store : Store) (id : Nat) (key : String) (hid : id < store.length) :
    (store.remove id key).lookup id key = none := by
  rw [remove]
  cases hp : store.parentHas id key with
  | true =>
    rw [if_pos rfl]
    exact lookup_modify_of_slot _ store id key none hid fun t => Table.get?_insert_self key none t
  | false =>
    rw [if_neg Bool.false_ne_true, lookup_erase_self store id key hid]
    rw [parentHas] at hp
    cases hs : (store.scope? id).bind Scope.parent with
    | none => rfl
    | some parent =>
      rw [hs] at hp
      have hnone : store.lookup parent key = none :=
        Option.isNone_iff_eq_none.mp (Option.isSome_eq_false_iff.mp hp)
      rw [Option.bind_some, hnone, ite_self]

theorem lookup_remove_of_ne (store : Store) (id other : Nat) (key k : String) (hne : key ≠ k) :
    (store.remove id key).lookup other k = store.lookup other k := by
  rw [remove]
  split
  · apply lookup_modify_of_same
    intro t
    rw [Table.get?_insert, if_neg hne]
  · apply lookup_modify_of_same
    intro t
    rw [Table.get?_erase, if_neg hne]

theorem length_remove (store : Store) (id : Nat) (key : String) :
    (store.remove id key).length = store.length := by
  rw [remove]
  split <;> exact length_modify _ store id

end Store

namespace Scenario
variable (scope : ScopeId) (response : Response)

/-- One capture sets its key to what its source has in the response, or unsets it. -/
theorem captureAll_singleton (name source : String) (store : Store) :
    captureAll scope response [(name, source)] store =
      match response.capture? source with
      | some value => store.set scope name value
      | none => store.remove scope name := rfl

theorem length_captureAll_singleton (name source : String) (store : Store) :
    (captureAll scope response [(name, source)] store).length = store.length := by
  rw [captureAll_singleton]
  cases response.capture? source with
  | some value => exact store.length_set scope name value
  | none => exact store.length_remove scope name

theorem lookup_captureAll_singleton (name source : String) (store : Store)
    (hs : scope < store.length) (key : String) :
    (captureAll scope response [(name, source)] store).lookup scope key =
      if name = key then response.capture? source else store.lookup scope key := by
  rw [captureAll_singleton]
  cases response.capture? source with
  | some value => exact store.lookup_set scope name value hs key
  | none =>
    by_cases hkey : name = key
    · subst hkey
      rw [if_pos rfl]
      exact store.lookup_remove_self scope name hs
    · rw [if_neg hkey]
      exact store.lookup_remove_of_ne scope scope name key hkey

/-- Behind captures each of their keys reads what its source has in the response, which is nothing if
the source has no value there, and every other key reads what it did. -/
theorem lookup_captureAll (captures : Table String) (store : Store) (hs : scope < store.length)
    (hn : captures.keys.Nodup) (key : String) :
    (captureAll scope response captures store).lookup scope key =
      match captures.get? key with
      | some source => response.capture? source
      | none => store.lookup scope key := by
  induction captures generalizing store with
  | nil => rfl
  | cons capture rest ih =>
    obtain ⟨name, source⟩ := capture
    obtain ⟨hnew, hrest⟩ := List.nodup_cons.mp hn
    have hlength := length_captureAll_singleton scope response name source store
    have htail := ih (captureAll scope response [(name, source)] store) (hlength ▸ hs) hrest
    rw [lookup_captureAll_singleton scope response name source store hs] at htail
    refine htail.trans ?_
    rw [Table.get?]
    by_cases hkey : name = key
    · -- No later capture has the same key.
      have hnone : Table.get? key rest = none := (Table.get?_eq_none_iff rest key).mpr (hkey ▸ hnew)
      rw [hnone, if_pos hkey, if_pos hkey]
    · rw [if_neg hkey, if_neg hkey]

end Scenario

namespace World

inductive Change where
  | store (op : Store.Op)
  | commit (caller : ScopeId) (built : Fixture.Built)

namespace Change

def apply (world : World) : Change → World
  | store op => world.mapStore fun store => op.apply store
  | commit caller built => Fixture.commit caller built world

def storeOp : Change → Store.Op
  | store op => op
  | commit caller built => .merge caller (built.flatMap (·.2))

end Change

def after (world : World) (history : List Change) : World := history.foldl Change.apply world

theorem store_after (world : World) (history : List Change) :
    (world.after history).store = world.store.after (history.map Change.storeOp) := by
  induction history generalizing world with
  | nil => rfl
  | cons change rest ih =>
    have hfirst : (change.apply world).store = change.storeOp.apply world.store := by
      cases change <;> rfl
    show ((change.apply world).after rest).store = _
    rw [ih, hfirst]
    rfl

/-- Where a removal was the last to touch a key of a scope, whatever else has been done since, the
scope reads nothing if its parent held the key when it was removed, and otherwise what its parent
holds by now. -/
theorem get_of_removed (world : World) (scope : ScopeId) (key : String) (later : List Change)
    (hr : world.store.Reachable) (hs : scope < world.store.length)
    (hl : ∀ change ∈ later, ¬ change.storeOp.Touches scope key) :
    let reached := (world.after (.store (.remove scope key) :: later)).store
    (reached.get scope key = .error (.undefinedVariable key) ↔
      world.store.parentHas scope key = true ∨ reached.parentHas scope key = false) ∧
    (world.store.parentHas scope key = false → ∀ parent,
      (world.store.scope? scope).bind Scope.parent = some parent →
        reached.get scope key = reached.get parent key) := by
  intro reached
  obtain ⟨s, hscope⟩ := Store.scope?_of_lt world.store scope hs
  obtain ⟨removed, hremoved, hp, hslot⟩ := Store.slot_remove world.store scope s key hscope
  have hstore : reached = (world.store.remove scope key).after (later.map Change.storeOp) :=
    store_after world (.store (.remove scope key) :: later)
  have hkept : ∀ op ∈ later.map Change.storeOp, ¬ op.Touches scope key := by
    intro op ho
    obtain ⟨change, hc, rfl⟩ := List.mem_map.mp ho
    exact hl change hc
  obtain ⟨t, hreached, hparent, hsame⟩ := Store.slot_after _ _ scope removed key hremoved hkept
  rw [← hstore] at hreached
  have hroot : ∀ parent, t.parent = some parent → parent < scope := by
    intro parent ht
    exact Store.rooted_of_reachable world.store hr scope s parent hscope
      ((hparent.trans hp).symm.trans ht)
  have hlook := Store.lookup_of_scope? reached scope t key hreached hroot
  rw [hsame, hslot] at hlook
  have hsees := Store.parentHas_eq reached scope t key hreached
  cases hb : world.store.parentHas scope key with
  | true =>
    rw [hb, if_pos rfl, Option.getD_some] at hlook
    refine ⟨iff_of_true ?_ (Or.inl rfl), nofun⟩
    rw [Store.get, hlook]
  | false =>
    rw [hb, if_neg Bool.false_ne_true, Option.getD_none] at hlook
    rw [← hlook] at hsees
    constructor
    · rw [hsees, Store.get]
      cases reached.lookup scope key <;> simp
    · intro _ parent hsp
      rw [hscope, Option.bind_some, ← hp, ← hparent] at hsp
      rw [hsp, Option.bind_some] at hlook
      rw [Store.get, Store.get, hlook]

/-- A lane removes a key that is not set anywhere. Once the root sets it, the lane reads it. -/
theorem get_of_removed_late :
    let world : World := { store := Store.after [] [.addRoot, .isolate 0 "lane"] }
    let later : List Change := [.store (.set 0 "tag" (.str "late"))]
    let reached := (world.after (.store (.remove 1 "tag") :: later)).store
    world.store.Reachable ∧ (∀ change ∈ later, ¬ change.storeOp.Touches 1 "tag") ∧
    reached.get 1 "tag" ≠ .error (.undefinedVariable "tag") ∧
    reached.get 1 "tag" = .ok (.str "late") := by
  intro world later reached
  have hroot : Store.Reachable (Store.Op.addRoot.apply []) := .step [] .addRoot .empty nofun
  have hr : world.store.Reachable := by
    refine .step _ (.isolate 0 "lane") hroot ?_
    rintro scope ⟨⟩
    exact Nat.one_pos
  have hl : ∀ change ∈ later, ¬ change.storeOp.Touches 1 "tag" := by
    intro change hc
    obtain rfl := List.mem_singleton.mp hc
    exact fun h => absurd h.1 Nat.zero_ne_one
  obtain ⟨hfails, hparent⟩ := get_of_removed world 1 "tag" later hr (Nat.lt_succ_self 1) hl
  have hread : reached.get 1 "tag" = .ok (.str "late") := (hparent rfl 0 rfl).trans rfl
  refine ⟨hr, hl, ?_, hread⟩
  intro h
  rcases hfails.mp h with hbefore | hnow
  · cases hbefore
  · cases hnow

end World
end ApiTrial
