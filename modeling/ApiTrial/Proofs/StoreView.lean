import ApiTrial.Proofs.StoreRemoval

/-! Who sees a write. A write changes slots of one scope. A read climbs from its scope to the first
one that has a slot for the key, so it notices the write only if it comes as far as the written
scope, and then it is answered as that scope is. -/
namespace ApiTrial
namespace Store

inductive Climb (store : Store) : ScopeId → List ScopeId → ScopeId → Prop
  | here (id : ScopeId) : Climb store id [] id
  | up (id parent top : ScopeId) (s : Scope) (passed : List ScopeId) (hs : store.scope? id = some s)
      (hp : s.parent = some parent) (rest : Climb store parent passed top) :
      Climb store id (id :: passed) top

def slot? (store : Store) (id : ScopeId) (key : String) : Option (Option Json) :=
  (store.scope? id).bind fun s => s.slots.get? key

/-- The scope `top` is the reading one or an ancestor of it, and no scope that is passed on the way
up to it holds anything for the key. -/
def SeesThrough (store : Store) (key : String) (reader top : ScopeId) : Prop :=
  ∃ passed, Climb store reader passed top ∧ ∀ id ∈ passed, store.slot? id key = none

namespace Op

def leaves? (key : String) : Op → Option Json
  | set _ _ value => some value
  | merge _ values => (Table.ofEntries values).get? key
  | _ => none

end Op

section Reads

theorem slot?_of_scope? (store : Store) (id : ScopeId) (s : Scope) (key : String)
    (hs : store.scope? id = some s) : store.slot? id key = s.slots.get? key := by
  rw [slot?, hs, Option.bind_some]

/-- All that is passed on the way up is younger than the scope at the end. -/
theorem lt_of_climb (store : Store) (reader top : Nat) (passed : List ScopeId)
    (hroot : store.Rooted) (h : Climb store reader passed top) :
    top ≤ reader ∧ ∀ id ∈ passed, top < id := by
  induction h with
  | here id => exact ⟨Nat.le_refl id, nofun⟩
  | up id parent top s passed hs hp rest ih =>
    have hlt : parent < id := hroot id s parent hs hp
    have hid : top < id := Nat.lt_of_le_of_lt ih.1 hlt
    exact ⟨Nat.le_of_lt hid, List.forall_mem_cons.mpr ⟨hid, ih.2⟩⟩

/-- Where nothing on the way up holds the key, a scope is answered as the one at the end is. -/
theorem lookup_of_seesThrough (store : Store) (key : String) (reader top : ScopeId)
    (hroot : store.Rooted) (h : store.SeesThrough key reader top) :
    store.lookup reader key = store.lookup top key := by
  obtain ⟨passed, hclimb, hclear⟩ := h
  induction hclimb with
  | here id => rfl
  | up id parent top s passed hs hp rest ih =>
    obtain ⟨hown, hclear⟩ := List.forall_mem_cons.mp hclear
    rw [slot?_of_scope? store id s key hs] at hown
    have hread := lookup_of_scope? store id s key hs (hroot id s · hs)
    rw [hown, Option.getD_none, hp, Option.bind_some] at hread
    rw [hread, ih hclear]

end Reads

section Writes
variable (store : Store) (op : Op) (scope : ScopeId) (ht : op.target? = some scope)
include ht

/-- A write adds no scope and leaves the other ones as they are. -/
theorem scope?_of_target (id : ScopeId) (hne : id ≠ scope) :
    (op.apply store).scope? id = store.scope? id := by
  obtain ⟨f, happly, -⟩ := exists_modify store op scope ht
  rw [happly]
  exact scope?_modify_of_ne store _ scope id hne

/-- Nobody notices a write of other keys. -/
theorem lookup_of_not_touches (key : String) (reader : ScopeId) (hk : ¬ op.Touches scope key) :
    (op.apply store).lookup reader key = store.lookup reader key := by
  obtain ⟨f, happly, hsame⟩ := exists_modify store op scope ht
  rw [happly]
  exact lookup_modify_of_same f store scope reader key fun slots => hsame key slots hk

/-- The way up to the written scope is the same after the write, and as clear as before. -/
theorem seesThrough_apply (key : String) (reader : ScopeId) (hroot : store.Rooted)
    (h : store.SeesThrough key reader scope) : SeesThrough (op.apply store) key reader scope := by
  obtain ⟨passed, hclimb, hclear⟩ := h
  refine ⟨passed, ?_⟩
  induction hclimb with
  | here id => exact ⟨.here id, nofun⟩
  | up id parent top s passed hs hp rest ih =>
    have hyounger := (lt_of_climb store id top _ hroot (.up id parent top s passed hs hp rest)).2
    have hne : id ≠ top := Nat.ne_of_gt (hyounger id List.mem_cons_self)
    have hkept := scope?_of_target store op top ht id hne
    obtain ⟨hown, hclear⟩ := List.forall_mem_cons.mp hclear
    obtain ⟨hclimb, hclear⟩ := ih ht hclear
    refine ⟨.up id parent top s passed (hkept.trans hs) hp hclimb, ?_⟩
    refine List.forall_mem_cons.mpr ⟨?_, hclear⟩
    rw [slot?, hkept]
    exact hown

/-- The written scope holds what the write leaves there. -/
theorem lookup_of_touches (key : String) (hs : scope < store.length) (hk : op.Touches scope key) :
    (op.apply store).lookup scope key = op.leaves? key := by
  cases op with
  | set s k value =>
    obtain ⟨rfl, rfl⟩ := hk
    exact lookup_set_self store s k value hs
  | remove s k =>
    obtain ⟨rfl, rfl⟩ := hk
    exact lookup_remove_self store s k hs
  | merge s values =>
    obtain ⟨rfl, hm⟩ := hk
    obtain ⟨value, hv⟩ :=
      Option.isSome_iff_exists.mp ((Table.get?_ofEntries_isSome_iff values key).mpr hm)
    have hread := lookup_merge store s values key hs
    rw [hv, Option.some_or, ← hv] at hread
    exact hread
  | _ => cases ht

/-- Whoever sees a key change has a clear way up to the written scope. -/
theorem seesThrough_of_changed (key : String) (hroot : store.Rooted)
    (hroot' : Rooted (op.apply store)) (reader : Nat)
    (hc : (op.apply store).lookup reader key ≠ store.lookup reader key) :
    store.SeesThrough key reader scope := by
  -- A parent is older than its children, so the induction is on the number of the reading scope.
  induction reader using Nat.strong_induction_on with
  | _ reader ih =>
    by_cases hr : reader = scope
    · subst hr
      exact ⟨[], .here reader, nofun⟩
    have hkept := scope?_of_target store op scope ht reader hr
    cases hs : store.scope? reader with
    | none =>
      rw [lookup_eq, lookup_eq store, hkept, hs] at hc
      exact absurd rfl hc
    | some s =>
      rw [lookup_of_scope? store reader s key hs (hroot reader s · hs),
        lookup_of_scope? _ reader s key (hkept.trans hs)
          (hroot' reader s · (hkept.trans hs))] at hc
      cases hslot : s.slots.get? key with
      | some slot =>
        rw [hslot] at hc
        exact absurd rfl hc
      | none =>
        cases hp : s.parent with
        | none =>
          rw [hp] at hc
          exact absurd rfl hc
        | some parent =>
          rw [hslot, hp] at hc
          obtain ⟨passed, hclimb, hclear⟩ := ih parent (hroot reader s parent hs hp) hc
          refine ⟨reader :: passed, .up reader parent scope s passed hs hp hclimb, ?_⟩
          refine List.forall_mem_cons.mpr ⟨?_, hclear⟩
          rw [slot?_of_scope? store reader s key hs, hslot]

end Writes

/-- In every tree of scopes, a write through a scope changes what a reading scope sees of a key only
if it touches the key, the scope is the reading one or an ancestor of it, and no scope on the way up
to it holds a value or a mark of its own for the key. Then the reading scope sees what the written
one sees afterwards: the value that was written last, or nothing behind a removal. -/
theorem write_seen_through (store : Store) (op : Op) (scope reader : ScopeId) (key : String)
    (hr : Reachable store) (ht : op.target? = some scope) (hs : scope < store.length) :
    ((op.apply store).lookup reader key ≠ store.lookup reader key →
      op.Touches scope key ∧ store.SeesThrough key reader scope) ∧
    (op.Touches scope key → store.SeesThrough key reader scope →
      (op.apply store).lookup reader key = (op.apply store).lookup scope key ∧
      (op.apply store).lookup scope key = op.leaves? key) := by
  have hscope : ∀ id, op.scope? = some id → id < store.length := by
    intro id hid
    cases op <;> cases ht <;> cases hid <;> exact hs
  have hroot : store.Rooted := rooted_of_reachable store hr
  have hroot' : Rooted (op.apply store) := rooted_of_reachable _ (.step store op hr hscope)
  constructor
  · intro hc
    refine ⟨?_, seesThrough_of_changed store op scope ht key hroot hroot' reader hc⟩
    by_contra hk
    exact hc (lookup_of_not_touches store op scope ht key reader hk)
  · intro hk hsees
    have hafter := seesThrough_apply store op scope ht key reader hroot hsees
    exact ⟨lookup_of_seesThrough _ key reader scope hroot' hafter,
      lookup_of_touches store op scope ht key hs hk⟩

def nestedLane : List Op :=
  [.addRoot, .isolate 0 "lane", .isolate 1 "inner", .set 0 "tag" (.str "root")]

theorem reachable_nestedLane : Reachable (after [] nestedLane) := by
  have hroot : Reachable (after [] [.addRoot]) := .step [] .addRoot .empty nofun
  have hlane : Reachable (after [] [.addRoot, .isolate 0 "lane"]) := by
    refine .step _ (.isolate 0 "lane") hroot ?_
    rintro scope ⟨⟩
    exact Nat.one_pos
  have hinner : Reachable (after [] [.addRoot, .isolate 0 "lane", .isolate 1 "inner"]) := by
    refine .step _ (.isolate 1 "inner") hlane ?_
    rintro scope ⟨⟩
    exact Nat.one_lt_two
  refine .step _ (.set 0 "tag" (.str "root")) hinner ?_
  rintro scope ⟨⟩
  exact Nat.zero_lt_succ 2

/-- The lane removes a key that the root holds, and the scope below it no longer sees the key. -/
theorem write_seen_through_nestedLane :
    let store := after [] nestedLane
    store.lookup 2 "tag" = some (.str "root") ∧
    SeesThrough store "tag" 2 1 ∧ (store.remove 1 "tag").lookup 2 "tag" = none := by
  intro store
  obtain ⟨hchange, hafter⟩ := write_seen_through store (.remove 1 "tag") 1 2 "tag"
    reachable_nestedLane rfl (by decide)
  have hread : store.lookup 2 "tag" = some (.str "root") := rfl
  have hchanged : (store.remove 1 "tag").lookup 2 "tag" ≠ store.lookup 2 "tag" := nofun
  obtain ⟨htouches, hsees⟩ := hchange hchanged
  obtain ⟨hsame, hgone⟩ := hafter htouches hsees
  exact ⟨hread, hsees, hsame.trans hgone⟩

end Store
end ApiTrial
