import ApiTrial.Proofs.StoreLookup
import Mathlib.Data.List.Sort
import Mathlib.Data.String.Basic

/-! The layered store beside a flat map. A read walks up the parents and stops at the first slot, a
snapshot is built from the topmost parent down; they agree as long as every scope holds each key
once, which every history of operations keeps up. A frozen scope has no parent, so that only a write
to itself could change what it answers. -/
namespace ApiTrial
namespace Table
variable {α : Type}

def Ordered (table : Table α) : Prop := table.Pairwise fun a b => a.1 < b.1

theorem eq_or_mem_of_mem_insert (key : String) (value : α) (table : Table α)
    (entry : String × α) (h : entry ∈ table.insert key value) :
    entry = (key, value) ∨ entry ∈ table := by
  induction table with
  | nil => exact Or.inl (List.mem_singleton.mp h)
  | cons first rest ih =>
    rw [insert] at h
    split at h
    · exact (List.mem_cons.mp h).imp_right (List.mem_cons_of_mem _)
    · split at h
      · exact List.mem_cons.mp h
      · rcases List.mem_cons.mp h with rfl | h
        · exact Or.inr List.mem_cons_self
        · exact (ih h).imp_right (List.mem_cons_of_mem _)

/-- Setting a key keeps the keys of a table in order. -/
theorem ordered_insert (key : String) (value : α) (table : Table α) (h : table.Ordered) :
    (table.insert key value).Ordered := by
  induction table with
  | nil => exact List.pairwise_singleton _ _
  | cons first rest ih =>
    obtain ⟨hfirst, hrest⟩ := List.pairwise_cons.mp h
    rw [insert]
    split
    · rename_i hk
      have hkey : ∀ entry ∈ rest, key < entry.1 := by
        intro entry he
        rw [← hk]
        exact hfirst entry he
      exact List.pairwise_cons.mpr ⟨hkey, hrest⟩
    · rename_i hk
      split
      · rename_i hlt
        have hkey : ∀ entry ∈ first :: rest, key < entry.1 := by
          intro entry he
          rcases List.mem_cons.mp he with rfl | he
          · exact hlt
          · exact hlt.trans (hfirst entry he)
        exact List.pairwise_cons.mpr ⟨hkey, h⟩
      · rename_i hlt
        have hgt : first.1 < key := lt_of_le_of_ne (not_lt.mp hlt) hk
        have hkey : ∀ entry ∈ insert key value rest, first.1 < entry.1 := by
          intro entry he
          rcases eq_or_mem_of_mem_insert key value rest entry he with rfl | he
          · exact hgt
          · exact hfirst entry he
        exact List.pairwise_cons.mpr ⟨hkey, ih hrest⟩

theorem ordered_erase (key : String) (table : Table α) (h : table.Ordered) :
    (table.erase key).Ordered :=
  List.Pairwise.filter _ h

theorem ordered_insertAll (entries : List (String × α)) (table : Table α) (h : table.Ordered) :
    (table.insertAll entries).Ordered := by
  induction entries generalizing table with
  | nil => exact h
  | cons entry rest ih => exact ih _ (ordered_insert entry.1 entry.2 table h)

theorem ordered_ofEntries (entries : List (String × α)) : (ofEntries entries).Ordered :=
  ordered_insertAll entries [] List.Pairwise.nil

theorem get?_eq_none_iff (table : Table α) (key : String) :
    get? key table = none ↔ key ∉ table.keys := by
  rw [← get?_isSome_iff, Option.not_isSome_iff_eq_none]

/-- In front of an ordered rest stands a key that the rest does not hold. -/
theorem get?_rest_of_ordered (first : String × α) (rest : Table α)
    (h : Ordered (first :: rest)) : get? first.1 rest = none := by
  rw [get?_eq_none_iff]
  intro hk
  obtain ⟨entry, he, hx⟩ := List.mem_map.mp hk
  have hlt := (List.pairwise_cons.mp h).1 entry he
  rw [hx] at hlt
  exact lt_irrefl _ hlt

theorem get?_eq_some_iff (table : Table α) (key : String) (value : α) (h : table.Ordered) :
    get? key table = some value ↔ (key, value) ∈ table := by
  induction table with
  | nil => simp [get?]
  | cons first rest ih =>
    have hnone := get?_rest_of_ordered first rest h
    have hrest := ih (List.pairwise_cons.mp h).2
    by_cases hk : first.1 = key
    · have hnot : (key, value) ∉ rest := by
        rw [← hrest, ← hk, hnone]
        exact (Option.some_ne_none value).symm
      simp [get?, hk, hnot, Prod.ext_iff, eq_comm]
    · have hne : ¬ (key, value) = first := fun he => hk (by rw [← he])
      simp [get?, hk, hrest, hne]

/-- Ordered tables that hold the same are the same. -/
theorem eq_of_get?_eq (s t : Table α) (hs : s.Ordered) (ht : t.Ordered)
    (h : ∀ key, get? key s = get? key t) : s = t := by
  have hmem (entry : String × α) : entry ∈ s ↔ entry ∈ t := by
    rw [← get?_eq_some_iff s entry.1 entry.2 hs, ← get?_eq_some_iff t entry.1 entry.2 ht, h]
  have hnodup (u : Table α) (hu : u.Ordered) : u.Nodup := by
    apply List.Pairwise.imp _ hu
    rintro a b hlt rfl
    exact lt_irrefl _ hlt
  have hperm : s.Perm t := (List.perm_ext_iff_of_nodup (hnodup s hs) (hnodup t ht)).mpr hmem
  exact hperm.eq_of_pairwise (fun a b _ _ hab hba => absurd (hab.trans hba) (lt_irrefl _)) hs ht

theorem get?_ofEntries_of_ordered (table : Table α) (key : String) (h : table.Ordered) :
    get? key (ofEntries table) = get? key table := by
  induction table with
  | nil => rfl
  | cons first rest ih =>
    have hx : ofEntries (first :: rest) = insertAll rest (insert first.1 first.2 []) := rfl
    have hnone := get?_rest_of_ordered first rest h
    rw [hx, get?_insertAll, get?_insert, ih (List.pairwise_cons.mp h).2]
    by_cases hk : first.1 = key
    · rw [← hk, hnone]
      simp [get?]
    · simp [get?, hk]

/-- An ordered table is the table of its own entries. -/
theorem ofEntries_of_ordered (table : Table α) (h : table.Ordered) : ofEntries table = table :=
  eq_of_get?_eq _ _ (ordered_ofEntries table) h fun key => get?_ofEntries_of_ordered table key h

end Table

namespace Store

/-- A slot laid over a table answers for its key, and hides it if it is empty. -/
theorem get?_overlay (slots : Table (Option Json)) (below : Table Json) (key : String)
    (h : slots.Ordered) :
    (overlay slots below).get? key = (slots.get? key).getD (below.get? key) := by
  induction slots generalizing below with
  | nil => rfl
  | cons first rest ih =>
    obtain ⟨k, slot⟩ := first
    have hnone : Table.get? k rest = none := Table.get?_rest_of_ordered (k, slot) rest h
    have hrest := (List.pairwise_cons.mp h).2
    cases slot with
    | some value =>
      have hx : overlay ((k, some value) :: rest) below = overlay rest (below.insert k value) := rfl
      rw [hx, ih _ hrest, Table.get?_insert, Table.get?]
      split
      · rename_i hk
        rw [← hk, hnone]
        rfl
      · rfl
    | none =>
      have hx : overlay ((k, none) :: rest) below = overlay rest (below.erase k) := rfl
      rw [hx, ih _ hrest, Table.get?_erase, Table.get?]
      split
      · rename_i hk
        rw [← hk, hnone]
        rfl
      · rfl

theorem ordered_overlay (slots : Table (Option Json)) (below : Table Json) (h : below.Ordered) :
    (overlay slots below).Ordered := by
  induction slots generalizing below with
  | nil => exact h
  | cons first rest ih =>
    obtain ⟨k, slot⟩ := first
    cases slot with
    | some value => exact ih _ (Table.ordered_insert k value below h)
    | none => exact ih _ (Table.ordered_erase k below h)

theorem ordered_snapshot (store : Store) (id : Nat) : (store.snapshot id).Ordered := by
  induction store generalizing id with
  | nil => exact List.Pairwise.nil
  | cons s older ih =>
    rw [snapshot]
    split
    · apply ordered_overlay
      cases s.parent with
      | some parent => exact ih parent
      | none => exact List.Pairwise.nil
    · exact ih id

def Tidy (store : Store) : Prop := ∀ s ∈ store, s.slots.Ordered

/-- Walking up the parents finds what the flattened scope holds. -/
theorem lookup_eq_get?_snapshot (store : Store) (id : Nat) (key : String) (h : store.Tidy) :
    store.lookup id key = (store.snapshot id).get? key := by
  induction store generalizing id with
  | nil => rfl
  | cons s older ih =>
    have hs : s.slots.Ordered := h s List.mem_cons_self
    have holder : Tidy older := fun t ht => h t (List.mem_cons_of_mem _ ht)
    rw [lookup, snapshot]
    split
    · rw [get?_overlay s.slots _ key hs]
      cases s.slots.get? key with
      | some slot => rfl
      | none =>
        cases s.parent with
        | some parent => exact ih parent holder
        | none => rfl
    · exact ih id holder

/-- What is done to the scopes of a store. A handle of a scope is its number, so a clone is the same
number once more. -/
inductive Op where
  | addRoot
  | isolate (scope : ScopeId) (name : String)
  | freeze (scope : ScopeId)
  | clone (scope : ScopeId)
  | set (scope : ScopeId) (key : String) (value : Json)
  | remove (scope : ScopeId) (key : String)
  | merge (scope : ScopeId) (values : List (String × Json))

namespace Op

def apply (store : Store) : Op → Store
  | addRoot => store.addRoot.1
  | isolate scope name => (store.isolate scope name).1
  | freeze scope => (store.freeze scope).1
  | clone _ => store
  | set scope key value => store.set scope key value
  | remove scope key => store.remove scope key
  | merge scope values => store.merge scope values

def target? : Op → Option ScopeId
  | set scope _ _ => some scope
  | remove scope _ => some scope
  | merge scope _ => some scope
  | _ => none

end Op

def after (store : Store) (history : List Op) : Store := history.foldl Op.apply store

theorem after_append (store : Store) (first then' : List Op) :
    store.after (first ++ then') = (store.after first).after then' :=
  List.foldl_append

theorem tidy_cons (store : Store) (s : Scope) (hs : s.slots.Ordered) (h : store.Tidy) :
    Tidy (s :: store) :=
  List.forall_mem_cons.mpr ⟨hs, h⟩

theorem tidy_modify (store : Store) (f : Table (Option Json) → Table (Option Json)) (id : Nat)
    (hf : ∀ slots : Table (Option Json), slots.Ordered → (f slots).Ordered) (h : store.Tidy) :
    Tidy (store.modify (fun s => { s with slots := f s.slots }) id) := by
  induction store with
  | nil => exact h
  | cons s older ih =>
    have hs : s.slots.Ordered := h s List.mem_cons_self
    have holder : Tidy older := fun t ht => h t (List.mem_cons_of_mem _ ht)
    rw [modify]
    split
    · exact tidy_cons older _ (hf s.slots hs) holder
    · exact tidy_cons _ s hs (ih holder)

/-- An operation leaves the slots of every scope in order. -/
theorem tidy_apply (store : Store) (op : Op) (h : store.Tidy) : Tidy (op.apply store) := by
  cases op with
  | addRoot => exact tidy_cons store _ List.Pairwise.nil h
  | isolate scope name => exact tidy_cons store _ List.Pairwise.nil h
  | freeze scope => exact tidy_cons store _ (Table.ordered_ofEntries _) h
  | clone scope => exact h
  | set scope key value =>
    exact tidy_modify store _ scope (fun slots => Table.ordered_insert key (some value) slots) h
  | remove scope key =>
    rw [Op.apply, remove]
    split
    · exact tidy_modify store _ scope (fun slots => Table.ordered_insert key none slots) h
    · exact tidy_modify store _ scope (fun slots => Table.ordered_erase key slots) h
  | merge scope values =>
    exact tidy_modify store _ scope (fun slots => Table.ordered_insertAll _ slots) h

theorem tidy_after (store : Store) (history : List Op) (h : store.Tidy) :
    Tidy (store.after history) := by
  induction history generalizing store with
  | nil => exact h
  | cons op rest ih => exact ih _ (tidy_apply store op h)

theorem scope?_cons_of_lt (store : Store) (s : Scope) (id : Nat) (hid : id < store.length) :
    scope? (s :: store) id = store.scope? id := by
  have hne : id ≠ store.length := by omega
  rw [scope?, if_neg hne]

theorem scope?_modify_of_ne (store : Store) (change : Scope → Scope) (id other : Nat)
    (hne : other ≠ id) : scope? (store.modify change id) other = store.scope? other := by
  induction store with
  | nil => rfl
  | cons s older ih =>
    rw [modify]
    split
    · rename_i he
      have ho : other ≠ older.length := fun h => hne (h.trans he.symm)
      rw [scope?, scope?, if_neg ho, if_neg ho]
    · rw [scope?, scope?, length_modify, ih]

/-- An operation leaves every scope alone that it does not write. -/
theorem scope?_apply (store : Store) (op : Op) (id : Nat) (hid : id < store.length)
    (ht : op.target? ≠ some id) :
    (op.apply store).scope? id = store.scope? id ∧ store.length ≤ (op.apply store).length := by
  have hne (scope : Nat) (h : some scope ≠ some id) : id ≠ scope := fun he => h (by rw [he])
  cases op with
  | addRoot => exact ⟨scope?_cons_of_lt store _ id hid, Nat.le_succ _⟩
  | isolate scope name => exact ⟨scope?_cons_of_lt store _ id hid, Nat.le_succ _⟩
  | freeze scope => exact ⟨scope?_cons_of_lt store _ id hid, Nat.le_succ _⟩
  | clone scope => exact ⟨rfl, le_rfl⟩
  | set scope key value =>
    exact ⟨scope?_modify_of_ne store _ scope id (hne scope ht), (length_modify ..).ge⟩
  | remove scope key =>
    rw [Op.apply, remove]
    split <;> exact ⟨scope?_modify_of_ne store _ scope id (hne scope ht), (length_modify ..).ge⟩
  | merge scope values =>
    exact ⟨scope?_modify_of_ne store _ scope id (hne scope ht), (length_modify ..).ge⟩

theorem scope?_after (store : Store) (history : List Op) (id : Nat) (hid : id < store.length)
    (ht : ∀ op ∈ history, op.target? ≠ some id) :
    (store.after history).scope? id = store.scope? id := by
  induction history generalizing store with
  | nil => rfl
  | cons op rest ih =>
    obtain ⟨hs, hl⟩ := scope?_apply store op id hid (ht op List.mem_cons_self)
    have hr := ih (op.apply store) (by omega) fun o ho => ht o (List.mem_cons_of_mem _ ho)
    exact hr.trans hs

/-- A scope without a parent shows its own slots and nothing else. -/
theorem snapshot_of_root (store : Store) (id : Nat) (s : Scope) (h : store.scope? id = some s)
    (hp : s.parent = none) : store.snapshot id = overlay s.slots [] := by
  induction store with
  | nil => cases h
  | cons t older ih =>
    rw [scope?] at h
    rw [snapshot]
    split
    · rename_i he
      rw [if_pos he, Option.some.injEq] at h
      rw [h, hp]
    · rename_i he
      rw [if_neg he] at h
      exact ih h

/-- Freezing writes down the snapshot of a scope. -/
theorem overlay_freeze (store : Store) (id : Nat) :
    overlay (Table.ofEntries ((store.snapshot id).map fun (k, v) => (k, some v))) [] =
      store.snapshot id := by
  have hs := ordered_snapshot store id
  have hslots := Table.ordered_ofEntries ((store.snapshot id).map fun (k, v) => (k, some v))
  apply Table.eq_of_get?_eq _ _ (ordered_overlay _ _ List.Pairwise.nil) hs
  intro key
  have hget := Table.get?_ofEntries_map some (store.snapshot id) key
  rw [Table.get?_ofEntries_of_ordered _ key hs] at hget
  rw [get?_overlay _ _ key hslots, hget]
  cases (store.snapshot id).get? key <;> rfl

/-- Whatever is done to other scopes, a frozen scope shows the snapshot that it was made of. -/
theorem snapshot_frozen (store : Store) (id : Nat) (later : List Op)
    (h : ∀ op ∈ later, op.target? ≠ some store.nextId) :
    (store.after (.freeze id :: later)).snapshot store.nextId = store.snapshot id := by
  have hlt : store.length < (store.freeze id).1.length := Nat.lt_succ_self _
  have hnew : (store.freeze id).1.scope? store.nextId = some ⟨rootPath, none,
      Table.ofEntries ((store.snapshot id).map fun (k, v) => (k, some v))⟩ := if_pos rfl
  have hkept := scope?_after (store.freeze id).1 later store.nextId hlt h
  have hroot := snapshot_of_root _ _ _ (hkept.trans hnew) rfl
  exact hroot.trans (overlay_freeze store id)

/-- After any history of operations every scope answers as the flat map of its snapshot does, which
holds each key once. A scope that is frozen then goes on to show the snapshot of that time, as long
as nothing is written to it. -/
theorem reads_agree_with_snapshot (history : List Op) (scope : ScopeId) (key : String) :
    let store := after [] history
    let flat := store.snapshot scope
    flat.keys.Nodup ∧
    (∀ value, store.get scope key = .ok value ↔ (key, value) ∈ flat) ∧
    (store.get scope key = .error (.undefinedVariable key) ↔ key ∉ flat.keys) ∧
    (store.has scope key = true ↔ key ∈ flat.keys) ∧
    (∀ value, (key, value) ∈ flat → store.getText scope key = .ok value.splice) ∧
    (key ∉ flat.keys → store.getText scope key = .error (.undefinedVariable key)) ∧
    ∀ later, (∀ op ∈ later, op.target? ≠ some store.nextId) →
      let reached := after [] (history ++ .freeze scope :: later)
      reached.snapshot store.nextId = flat ∧
      reached.get store.nextId key = store.get scope key := by
  intro store flat
  have htidy : Tidy [] := fun s hs => absurd hs List.not_mem_nil
  have hflat : flat.Ordered := ordered_snapshot store scope
  have hlook : store.lookup scope key = flat.get? key :=
    lookup_eq_get?_snapshot store scope key (tidy_after [] history htidy)
  have hsome (value : Json) : flat.get? key = some value ↔ (key, value) ∈ flat :=
    Table.get?_eq_some_iff flat key value hflat
  have hnone : flat.get? key = none ↔ key ∉ flat.keys := Table.get?_eq_none_iff flat key
  have hfound (value : Json) (hx : flat.get? key = some value) :
      store.get scope key = .ok value := by
    simp only [get, hlook, hx]
  have hmissing (hx : flat.get? key = none) :
      store.get scope key = .error (.undefinedVariable key) := by
    simp only [get, hlook, hx]
  refine ⟨?_, ?_, ?_, ?_, ?_, ?_, ?_⟩
  · exact List.pairwise_map.mpr (hflat.imp fun hlt => ne_of_lt hlt)
  · intro value
    rw [← hsome]
    refine ⟨?_, hfound value⟩
    intro hread
    cases hx : flat.get? key with
    | some found =>
      rw [hfound found hx] at hread
      exact congrArg some (Except.ok.inj hread)
    | none =>
      rw [hmissing hx] at hread
      cases hread
  · rw [← hnone]
    refine ⟨?_, hmissing⟩
    intro hread
    cases hx : flat.get? key with
    | some found =>
      rw [hfound found hx] at hread
      cases hread
    | none => rfl
  · rw [has, hlook]
    exact Table.get?_isSome_iff flat key
  · intro value hv
    rw [getText, hfound value ((hsome value).mpr hv)]
    rfl
  · intro hk
    rw [getText, hmissing (hnone.mpr hk)]
    rfl
  · intro later hl reached
    have hreached : reached = store.after (.freeze scope :: later) := after_append [] history _
    have hsnap : reached.snapshot store.nextId = flat := by
      rw [hreached]
      exact snapshot_frozen store scope later hl
    have hread := lookup_eq_get?_snapshot reached store.nextId key
      (tidy_after [] (history ++ .freeze scope :: later) htidy)
    refine ⟨hsnap, ?_⟩
    rw [get, get, hread, hsnap, hlook]

/-- A lane unsets what the root holds and is frozen; then both go on changing. -/
theorem reads_agree_with_snapshot_lane :
    let history : List Op := [.addRoot, .set 0 "tag" (.str "root"), .isolate 0 "lane",
      .remove 1 "tag", .merge 1 [("n", .int 5)]]
    let later : List Op := [.set 0 "tag" (.str "new"), .remove 1 "n"]
    (∀ op ∈ later, op.target? ≠ some 2) ∧
    (after [] history).snapshot 1 = [("n", .int 5)] ∧
    (after [] history).get 1 "tag" = .error (.undefinedVariable "tag") ∧
    (after [] (history ++ .freeze 1 :: later)).snapshot 2 = [("n", .int 5)] ∧
    (after [] (history ++ .freeze 1 :: later)).get 2 "n" = .ok (.int 5) := by
  intro history later
  have hlater : ∀ op ∈ later, op.target? ≠ some 2 := by
    simp [later, Op.target?]
  have h := reads_agree_with_snapshot history 1
  obtain ⟨-, -, htag, -, -, -, -⟩ := h "tag"
  obtain ⟨-, -, -, -, -, -, hfrozen⟩ := h "n"
  obtain ⟨hsnap, hget⟩ := hfrozen later hlater
  have hflat : (after [] history).snapshot 1 = [("n", .int 5)] := rfl
  exact ⟨hlater, hflat, htag.mpr (by rw [hflat]; decide), hsnap.trans hflat, hget⟩

end Store
end ApiTrial
