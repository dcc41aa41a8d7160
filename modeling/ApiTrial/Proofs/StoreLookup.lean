import ApiTrial.World

/-! What a scope sees after the store has changed. A scope is told by the scopes made before it, so
scopes on top of it leave its view as it was; a change of its own slots is seen key by key, as a
layer of values on top of what it saw before. -/
namespace ApiTrial
namespace Table
variable {α β : Type}

/-- A batch written over a table: the last value under a key of the batch, or else the old one. -/
theorem get?_insertAll (entries : List (String × α)) (table : Table α) (key : String) :
    get? key (insertAll entries table) = (get? key (ofEntries entries)).or (get? key table) := by
  induction entries generalizing table with
  | nil => rfl
  | cons entry rest ih =>
    have hx (t : Table α) : insertAll (entry :: rest) t =
        insertAll rest (insert entry.1 entry.2 t) := rfl
    rw [ofEntries, hx, hx, ih, ih (insert entry.1 entry.2 []), get?_insert, get?_insert]
    cases get? key (ofEntries rest) with
    | some v => rfl
    | none => split <;> rfl

theorem mem_of_get? (table : Table α) (key : String) (value : α)
    (h : table.get? key = some value) : (key, value) ∈ table := by
  induction table with
  | nil => cases h
  | cons first rest ih =>
    rw [get?] at h
    split at h
    · rename_i hkey
      cases h
      exact hkey ▸ List.mem_cons_self
    · exact List.mem_cons_of_mem _ (ih h)

theorem get?_ofEntries_nil (key : String) : get? key (ofEntries ([] : Table α)) = none := rfl

theorem get?_ofEntries_cons (k : String) (value : α) (rest : List (String × α)) (key : String) :
    get? key (ofEntries ((k, value) :: rest)) =
      (get? key (ofEntries rest)).or (if k = key then some value else none) := by
  have hx : ofEntries ((k, value) :: rest) = insertAll rest (insert k value []) := rfl
  rw [hx, get?_insertAll, get?_insert]
  rfl

theorem get?_isSome_iff (table : Table α) (key : String) :
    (get? key table).isSome = true ↔ key ∈ table.keys := by
  induction table with
  | nil => simp [get?, keys]
  | cons entry rest ih =>
    by_cases hk : entry.1 = key
    · simp [get?, keys, hk]
    · simp only [get?, hk, if_false, ih, keys, List.map_cons, List.mem_cons]
      exact ⟨Or.inr, fun h => h.resolve_left fun he => hk he.symm⟩

theorem contains_iff (table : Table α) (key : String) :
    table.contains key = true ↔ key ∈ table.keys :=
  get?_isSome_iff table key

theorem get?_ofEntries_isSome_iff (entries : List (String × α)) (key : String) :
    (get? key (ofEntries entries)).isSome = true ↔ key ∈ entries.map (·.1) := by
  induction entries with
  | nil => simp [ofEntries, insertAll, get?]
  | cons entry rest ih =>
    have hx : ofEntries (entry :: rest) = insertAll rest (insert entry.1 entry.2 []) := rfl
    rw [hx, get?_insertAll, get?_insert, Option.isSome_or, Bool.or_eq_true, ih]
    by_cases hk : entry.1 = key
    · simp [hk]
    · have hk' : ¬ key = entry.1 := fun h => hk h.symm
      simp [hk, hk', get?]

theorem isSome_get?_ofEntries (table : Table α) (key : String) :
    (get? key (ofEntries table)).isSome = table.contains key := by
  rw [Bool.eq_iff_iff, get?_ofEntries_isSome_iff, contains_iff]
  rfl

theorem mem_of_get?_ofEntries (entries : List (String × α)) (key : String)
    (value : α) (h : get? key (ofEntries entries) = some value) : (key, value) ∈ entries := by
  induction entries with
  | nil => cases h
  | cons entry rest ih =>
    have hx : ofEntries (entry :: rest) = insertAll rest (insert entry.1 entry.2 []) := rfl
    rw [hx, get?_insertAll, get?_insert] at h
    cases hr : get? key (ofEntries rest) with
    | some later =>
      rw [hr, Option.some_or] at h
      exact List.mem_cons_of_mem entry (ih (hr.trans h))
    | none =>
      rw [hr, Option.none_or] at h
      split at h
      · rename_i hk
        have hv : entry.2 = value := Option.some.inj h
        rw [← hk, ← hv]
        exact List.mem_cons_self
      · cases h

theorem get?_ofEntries_map (f : α → β) (entries : List (String × α)) (key : String) :
    get? key (ofEntries (entries.map fun e => (e.1, f e.2))) =
      (get? key (ofEntries entries)).map f := by
  induction entries with
  | nil => rfl
  | cons entry rest ih =>
    have hx (γ : Type) (e : String × γ) (es : List (String × γ)) :
        ofEntries (e :: es) = insertAll es (insert e.1 e.2 []) := rfl
    rw [List.map_cons, hx, hx, get?_insertAll, get?_insertAll, ih, get?_insert, get?_insert]
    cases get? key (ofEntries rest) with
    | some v => rfl
    | none => by_cases hk : entry.1 = key <;> simp [hk, get?]

end Table

structure Layer (named : Prop) (gives : Json → Prop) (before after : Option Json) : Prop where
  own : named → ∃ value, gives value ∧ after = some value
  below : ¬ named → after = before

namespace Layer
variable {named named' : Prop} {gives gives' : Json → Prop} {before between after : Option Json}

/-- A layer without a name changes nothing. -/
theorem of_not (hn : ¬ named) (h : after = before) : Layer named gives before after :=
  ⟨fun hx => absurd hx hn, fun _ => h⟩

theorem mono (h : Layer named gives before after) (hn : named' ↔ named)
    (hg : ∀ value, gives value → gives' value) : Layer named' gives' before after where
  own := by
    intro hx
    obtain ⟨value, hv, ha⟩ := h.own (hn.mp hx)
    exact ⟨value, hg value hv, ha⟩
  below := fun hx => h.below fun hy => hx (hn.mpr hy)

/-- The upper of two layers is asked first. -/
theorem stack (h : Layer named gives before between) (h' : Layer named' gives' between after) :
    Layer (named ∨ named') (fun value => gives value ∨ gives' value) before after where
  own := by
    intro hx
    by_cases hn : named'
    · obtain ⟨value, hv, ha⟩ := h'.own hn
      exact ⟨value, Or.inr hv, ha⟩
    · obtain ⟨value, hv, hb⟩ := h.own (hx.resolve_right hn)
      exact ⟨value, Or.inl hv, (h'.below hn).trans hb⟩
  below := by
    intro hx
    have hupper : after = between := h'.below fun hn => hx (Or.inr hn)
    exact hupper.trans (h.below fun hn => hx (Or.inl hn))

theorem isSome_iff (h : Layer named gives before after) :
    after.isSome = true ↔ named ∨ before.isSome = true := by
  by_cases hn : named
  · obtain ⟨value, -, ha⟩ := h.own hn
    exact iff_of_true (by rw [ha]; rfl) (Or.inl hn)
  · rw [h.below hn, or_iff_right hn]

end Layer

namespace Store

theorem lookup_append (newer older : Store) (id : Nat) (key : String)
    (hid : id < older.length) : lookup (newer ++ older) id key = lookup older id key := by
  induction newer with
  | nil => rfl
  | cons s newer ih =>
    have hn : id ≠ (newer ++ older).length := by
      rw [List.length_append]
      omega
    rw [List.cons_append, lookup, if_neg hn, ih]

theorem lookup_of_suffix (older store : Store) (hs : older <:+ store) (id : Nat)
    (key : String) (hid : id < older.length) : store.lookup id key = older.lookup id key := by
  obtain ⟨newer, rfl⟩ := hs
  exact lookup_append newer older id key hid

theorem snapshot_of_suffix (older store : Store) (hs : older <:+ store) (id : Nat)
    (hid : id < older.length) : store.snapshot id = older.snapshot id := by
  obtain ⟨newer, rfl⟩ := hs
  induction newer with
  | nil => rfl
  | cons s newer ih =>
    have hn : id ≠ (newer ++ older).length := by
      rw [List.length_append]
      omega
    rw [List.cons_append, snapshot, if_neg hn, ih]

theorem length_modify (change : Scope → Scope) (store : Store) (id : Nat) :
    (store.modify change id).length = store.length := by
  induction store with
  | nil => rfl
  | cons s older ih =>
    rw [modify]
    split
    · rfl
    · rw [List.length_cons, List.length_cons, ih]

theorem modify_of_length_le (store : Store) (change : Scope → Scope) (id : Nat)
    (hid : store.length ≤ id) : store.modify change id = store := by
  induction store with
  | nil => rfl
  | cons s older ih =>
    rw [List.length_cons] at hid
    have hn : id ≠ older.length := by omega
    rw [modify, if_neg hn, ih (by omega)]

/-- A change of a scope leaves all scopes made before it untouched. -/
theorem suffix_modify (older store : Store) (hs : older <:+ store) (change : Scope → Scope)
    (id : Nat) (hid : older.length ≤ id) : older <:+ store.modify change id := by
  obtain ⟨newer, rfl⟩ := hs
  induction newer with
  | nil => exact ⟨[], (modify_of_length_le older change id hid).symm⟩
  | cons s newer ih =>
    rw [List.cons_append, modify]
    split
    · exact (List.suffix_append newer older).trans (List.suffix_cons _ _)
    · exact ih.trans (List.suffix_cons _ _)

/-- A scope whose own slot under a key is changed for sure is seen to have that slot. -/
theorem lookup_modify_of_slot (f : Table (Option Json) → Table (Option Json)) (store : Store)
    (id : Nat) (key : String) (slot : Option Json) (hid : id < store.length)
    (hf : ∀ t, (f t).get? key = some slot) :
    lookup (store.modify (fun s => { s with slots := f s.slots }) id) id key = slot := by
  induction store with
  | nil => simp at hid
  | cons s older ih =>
    rw [modify]
    by_cases he : id = older.length
    · rw [if_pos he, lookup, if_pos he, hf]
    · have hl : id < older.length := by
        rw [List.length_cons] at hid
        omega
      rw [if_neg he, lookup, length_modify, if_neg he, ih hl]

/-- Nobody notices a change of slots under other keys. -/
theorem lookup_modify_of_same (f : Table (Option Json) → Table (Option Json)) (store : Store)
    (id other : Nat) (key : String) (hf : ∀ t, (f t).get? key = t.get? key) :
    lookup (store.modify (fun s => { s with slots := f s.slots }) id) other key =
      lookup store other key := by
  induction store generalizing other with
  | nil => rfl
  | cons s older ih =>
    rw [modify]
    split
    · rw [lookup, lookup, hf]
    · simp only [lookup, length_modify, ih]

theorem lookup_set_self (store : Store) (id : Nat) (key : String) (value : Json)
    (hid : id < store.length) : (store.set id key value).lookup id key = some value :=
  lookup_modify_of_slot _ store id key (some value) hid
    fun t => Table.get?_insert_self key (some value) t

theorem lookup_set_of_ne (store : Store) (id other : Nat) (key k : String) (value : Json)
    (hne : key ≠ k) : (store.set id key value).lookup other k = store.lookup other k := by
  apply lookup_modify_of_same
  intro t
  rw [Table.get?_insert, if_neg hne]

theorem lookup_set (store : Store) (id : Nat) (key : String) (value : Json)
    (hid : id < store.length) (k : String) :
    (store.set id key value).lookup id k = if key = k then some value else store.lookup id k := by
  split
  · rename_i hk
    rw [← hk, lookup_set_self store id key value hid]
  · exact lookup_set_of_ne store id id key k value ‹_›

/-- A scope that takes over a batch of values sees the last one under each key. -/
theorem lookup_merge (store : Store) (id : Nat) (values : List (String × Json))
    (key : String) (hid : id < store.length) :
    (store.merge id values).lookup id key =
      ((Table.ofEntries values).get? key).or (store.lookup id key) := by
  have hget (t : Table (Option Json)) :
      (t.insertAll (values.map fun e => (e.1, some e.2))).get? key =
        (((Table.ofEntries values).get? key).map some).or (t.get? key) := by
    rw [Table.get?_insertAll, Table.get?_ofEntries_map]
  cases hv : (Table.ofEntries values).get? key with
  | some v =>
    rw [Option.some_or]
    refine lookup_modify_of_slot _ store id key (some v) hid ?_
    intro t
    rw [hget, hv]
    rfl
  | none =>
    rw [Option.none_or]
    refine lookup_modify_of_same _ store id id key ?_
    intro t
    rw [hget, hv]
    rfl

theorem layer_set (store : Store) (id : Nat) (key k : String) (value : Json)
    (hid : id < store.length) :
    Layer (k = key) (fun v => k = key ∧ v = value) (store.lookup id k)
      ((store.set id key value).lookup id k) where
  own := by
    rintro rfl
    exact ⟨value, ⟨rfl, rfl⟩, lookup_set_self store id k value hid⟩
  below := fun hk => lookup_set_of_ne store id id key k value fun h => hk h.symm

theorem layer_merge (store : Store) (id : Nat) (values : List (String × Json)) (key : String)
    (hid : id < store.length) :
    Layer (key ∈ values.map (·.1)) (fun v => (key, v) ∈ values) (store.lookup id key)
      ((store.merge id values).lookup id key) := by
  rw [lookup_merge store id values key hid]
  constructor
  · intro hk
    obtain ⟨value, hv⟩ :=
      Option.isSome_iff_exists.mp ((Table.get?_ofEntries_isSome_iff values key).mpr hk)
    exact ⟨value, Table.mem_of_get?_ofEntries values key value hv, by rw [hv, Option.some_or]⟩
  · intro hk
    rw [← Table.get?_ofEntries_isSome_iff, Option.not_isSome_iff_eq_none] at hk
    rw [hk, Option.none_or]

theorem has_merge_iff (store : Store) (id : Nat) (values : List (String × Json))
    (key : String) (hid : id < store.length) :
    (store.merge id values).has id key = true ↔
      key ∈ values.map (·.1) ∨ store.has id key = true :=
  (layer_merge store id values key hid).isSome_iff

theorem has_set_iff (store : Store) (id : Nat) (key k : String) (value : Json)
    (hid : id < store.length) :
    (store.set id key value).has id k = true ↔ k = key ∨ store.has id k = true :=
  (layer_set store id key k value hid).isSome_iff

theorem lookup_isolate (store : Store) (id : Nat) (name key : String) :
    (store.isolate id name).1.lookup store.length key = store.lookup id key := by
  simp [isolate, lookup, Table.get?]

theorem suffix_isolate (store : Store) (id : Nat) (name : String) :
    store <:+ (store.isolate id name).1 :=
  List.suffix_cons _ _

@[simp] theorem length_set (store : Store) (id : Nat) (key : String) (value : Json) :
    (store.set id key value).length = store.length :=
  length_modify _ store id

@[simp] theorem length_merge (store : Store) (id : Nat) (values : List (String × Json)) :
    (store.merge id values).length = store.length :=
  length_modify _ store id

theorem length_foldl_merge (store : Store) (id : Nat) (batches : List (Table Json)) :
    (batches.foldl (fun store batch => store.merge id batch) store).length = store.length := by
  induction batches generalizing store with
  | nil => rfl
  | cons batch rest ih => rw [List.foldl_cons, ih, length_merge]

/-- Of batches that a scope takes over one after the other, the last one that has a key counts. -/
theorem lookup_foldl_merge (store : Store) (id : Nat) (batches : List (Table Json)) (key : String)
    (hid : id < store.length) :
    (batches.foldl (fun store batch => store.merge id batch) store).lookup id key =
      (batches.reverse.findSome? fun batch => (Table.ofEntries batch).get? key).or
        (store.lookup id key) := by
  induction batches generalizing store with
  | nil => rfl
  | cons batch rest ih =>
    rw [List.foldl_cons, ih _ (by rwa [length_merge]), lookup_merge store id batch key hid,
      List.reverse_cons, List.findSome?_append, Option.or_assoc, List.findSome?_singleton]

/-- Batches that a scope takes over one after the other. -/
theorem layer_foldl_merge (store : Store) (id : Nat) (batches : List (Table Json)) (key : String)
    (hid : id < store.length) :
    Layer (∃ batch ∈ batches, key ∈ batch.keys) (fun v => ∃ batch ∈ batches, (key, v) ∈ batch)
      (store.lookup id key)
      ((batches.foldl (fun store batch => store.merge id batch) store).lookup id key) := by
  induction batches generalizing store with
  | nil => exact Layer.of_not (by simp) rfl
  | cons batch rest ih =>
    have hfirst := layer_merge store id batch key hid
    have hrest := ih (store.merge id batch) (by rwa [length_merge])
    apply (hfirst.stack hrest).mono
    · simp only [List.mem_cons, exists_eq_or_imp]
      rfl
    · rintro value (hv | ⟨other, ho, hv⟩)
      · exact ⟨batch, by simp, hv⟩
      · exact ⟨other, by simp [ho], hv⟩

end Store

end ApiTrial
