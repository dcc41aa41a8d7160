import ApiTrial.Proofs.RequestReread
import ApiTrial.Proofs.SeedPrecedence
import ApiTrial.Proofs.TemplateJoined
import Mathlib

/-! The shape in which variables of a configuration arrive. A value becomes the JSON value of the
same shape, at any depth, except that a date or a time does not become its text: it arrives as an
object with the text in it, and that object is what a placeholder is filled with. -/
namespace ApiTrial

/-- Entries under text keys are the fields that they were made of. -/
theorem Data.textEntries?_map (fields : List (String × Data)) :
    textEntries? (fields.map fun field => (.text field.1, field.2)) = some fields := by
  rw [textEntries?, List.mapM_map]
  exact List.mapM_pure.trans (congrArg some (List.map_id fields))

namespace Toml

inductive Value where
  | string (text : String)
  | integer (value : Int)
  | float (value : Binary64)
  | boolean (value : Bool)
  | moment (text : String)
  | array (items : List Value)
  | table (entries : List (String × Value))

namespace Value

mutual

def data : Value → Data
  | string text => .text text
  | integer value => .int value
  | float value => .real (some value)
  | boolean value => .bool value
  | moment text => Toml.moment text
  | array items => .list (itemData items)
  | table entries => .map (entryData entries)

def itemData : List Value → List Data
  | [] => []
  | item :: rest => item.data :: itemData rest

def entryData : List (String × Value) → List (Data × Data)
  | [] => []
  | (key, value) :: rest => (.text key, value.data) :: entryData rest

end

mutual

def json (ofMoment : String → Json) : Value → Json
  | string text => .str text
  | integer value => .int value
  | float value => .float value
  | boolean value => .bool value
  | moment text => ofMoment text
  | array items => .arr (itemJson ofMoment items)
  | table entries => .obj (entryJson ofMoment entries)

def itemJson (ofMoment : String → Json) : List Value → List Json
  | [] => []
  | item :: rest => item.json ofMoment :: itemJson ofMoment rest

def entryJson (ofMoment : String → Json) : List (String × Value) → List (String × Json)
  | [] => []
  | (key, value) :: rest => (key, value.json ofMoment) :: entryJson ofMoment rest

end

def asWritten : Value → Json := json .str

/-- What a date or a time arrives as. -/
def wrapped (text : String) : Json := .obj [(momentKey, .str text)]

/-- There is a date or a time somewhere in a value. -/
inductive HasMoment : Value → Prop
  | moment (text : String) : HasMoment (moment text)
  | item (items : List Value) (item : Value) (hm : item ∈ items) (h : HasMoment item) :
      HasMoment (array items)
  | entry (entries : List (String × Value)) (entry : String × Value) (hm : entry ∈ entries)
      (h : HasMoment entry.2) : HasMoment (table entries)

inductive Sorted : Value → Prop
  | string (text : String) : Sorted (string text)
  | integer (value : Int) : Sorted (integer value)
  | float (value : Binary64) : Sorted (float value)
  | boolean (value : Bool) : Sorted (boolean value)
  | moment (text : String) : Sorted (moment text)
  | array (items : List Value) (sorted : ∀ item ∈ items, Sorted item) : Sorted (array items)
  | table (entries : Table Value) (ordered : entries.Ordered)
      (sorted : ∀ entry ∈ entries, Sorted entry.2) : Sorted (table entries)

theorem itemJson_eq (ofMoment : String → Json) (items : List Value) :
    itemJson ofMoment items = items.map (json ofMoment) := by
  induction items with
  | nil => rfl
  | cons item rest ih => rw [itemJson, ih, List.map_cons]

theorem entryJson_eq (ofMoment : String → Json) (entries : List (String × Value)) :
    entryJson ofMoment entries = entries.map fun entry => (entry.1, entry.2.json ofMoment) := by
  induction entries with
  | nil => rfl
  | cons entry rest ih => rw [entryJson, ih, List.map_cons]

theorem entryData_eq (entries : List (String × Value)) :
    entryData entries = (entries.map fun entry => (entry.1, entry.2.data)).map fun field =>
      (.text field.1, field.2) := by
  induction entries with
  | nil => rfl
  | cons entry rest ih => rw [entryData, ih, List.map_cons, List.map_cons]

theorem ordered_entryJson (ofMoment : String → Json) (entries : Table Value)
    (h : entries.Ordered) : Table.Ordered (entryJson ofMoment entries) := by
  rw [entryJson_eq]
  exact List.pairwise_map.mpr h

theorem toItems?_itemData (items : List Value)
    (h : ∀ item ∈ items, item.data.toJson? = some (item.json wrapped)) :
    Data.toItems? (itemData items) = some (itemJson wrapped items) := by
  induction items with
  | nil => rfl
  | cons item rest ih =>
    obtain ⟨hitem, hrest⟩ := List.forall_mem_cons.mp h
    rw [itemData, Data.toItems?, hitem, ih hrest]
    rfl

theorem toMembers?_entryData (entries : List (String × Value))
    (h : ∀ entry ∈ entries, entry.2.data.toJson? = some (entry.2.json wrapped)) :
    Data.toMembers? (entryData entries) = some (entryJson wrapped entries) := by
  induction entries with
  | nil => rfl
  | cons entry rest ih =>
    obtain ⟨hentry, hrest⟩ := List.forall_mem_cons.mp h
    rw [entryData, Data.toMembers?, hentry, ih hrest]
    rfl

/-- Every value becomes JSON, and only dates and times change their shape. -/
theorem toJson?_data (value : Value) (h : value.Sorted) :
    value.data.toJson? = some (value.json wrapped) := by
  induction h with
  | string text => rfl
  | integer value => rfl
  | float value => rfl
  | boolean value => rfl
  | moment text => rfl
  | array items sorted ih =>
    rw [data, Data.toJson?, toItems?_itemData items ih, Option.map_some, json]
  | table entries ordered sorted ih =>
    rw [data, Data.toJson?, toMembers?_entryData entries ih, Option.map_some,
      Json.ofMembers_of_ordered _ (ordered_entryJson wrapped entries ordered), json]

/-- A value arrives as it is written exactly if there is no date or time in it. -/
theorem json_eq_asWritten_iff (value : Value) (h : value.Sorted) :
    value.json wrapped = value.asWritten ↔ ¬ value.HasMoment := by
  induction h with
  | string text => exact iff_of_true rfl nofun
  | integer value => exact iff_of_true rfl nofun
  | float value => exact iff_of_true rfl nofun
  | boolean value => exact iff_of_true rfl nofun
  | moment text => exact iff_of_false nofun fun h => h (.moment text)
  | array items sorted ih =>
    rw [asWritten, json, json, itemJson_eq, itemJson_eq, Json.arr.injEq, List.map_inj_left]
    constructor
    · intro heq hmoment
      cases hmoment with
      | item _ item hm hmoment => exact (ih item hm).mp (heq item hm) hmoment
    · intro hnot item hm
      exact (ih item hm).mpr fun hmoment => hnot (.item items item hm hmoment)
  | table entries ordered sorted ih =>
    rw [asWritten, json, json, entryJson_eq, entryJson_eq, Json.obj.injEq, List.map_inj_left]
    constructor
    · intro heq hmoment
      cases hmoment with
      | entry _ entry hm hmoment =>
        exact (ih entry hm).mp (congrArg Prod.snd (heq entry hm)) hmoment
    · intro hnot entry hm
      have hvalue := (ih entry hm).mpr fun hmoment => hnot (.entry entries entry hm hmoment)
      exact congrArg (entry.1, ·) hvalue

/-- Reading the variables of a configuration never fails, whatever values they have. -/
theorem tableOf_data (entries : Table Value) (h : (table entries).Sorted) :
    Source.tableOf Source.json (table entries).data =
      (pure (entryJson wrapped entries) : Decode (Table Json)) := by
  cases h with
  | table _ ordered sorted =>
    have hread : (entries.map fun entry => (entry.1, entry.2.data)).mapM
        (fun entry => do return (entry.1, ← Source.json entry.2)) =
          (pure (entryJson wrapped entries) : Decode _) := by
      rw [entryJson_eq]
      clear ordered
      induction entries with
      | nil => rfl
      | cons entry rest ih =>
        obtain ⟨hentry, hrest⟩ := List.forall_mem_cons.mp sorted
        have hjson : Source.json entry.2.data =
            (pure (entry.2.json wrapped) : Decode Json) := by
          show Decode.ofOption entry.2.data.toJson? = _
          rw [toJson?_data entry.2 hentry]
          rfl
        simp only [List.map_cons, List.mapM_cons, hjson, ih hrest, pure_bind]
    have hfields : Source.entries (table entries).data =
        (pure (entries.map fun entry => (entry.1, entry.2.data)) : Decode _) := by
      show Decode.ofOption (Data.textEntries? (entryData entries)) = _
      rw [entryData_eq, Data.textEntries?_map]
      rfl
    rw [Source.tableOf, hfields, pure_bind, hread, pure_bind,
      Table.ofEntries_of_ordered _ (ordered_entryJson wrapped entries ordered)]

end Value
end Toml

/-- The JSON text of an object with one text in it. -/
theorem Json.splice_obj_singleton (key text : String) :
    (obj [(key, str text)]).splice = "\x7b" ++ String.ofList (writeString key) ++ ":" ++
      String.ofList (writeString text) ++ "\x7d" := by
  apply String.toList_injective
  simp [splice, render, write, writeMembers]

theorem Json.length_le_flatMap_escapeChar (text : List Char) :
    text.length ≤ (text.flatMap escapeChar).length := by
  induction text with
  | nil => exact Nat.le_refl 0
  | cons c rest ih =>
    have hc : 0 < (escapeChar c).length := by
      unfold escapeChar
      repeat' split
      all_goals simp
    rw [List.flatMap_cons, List.length_append, List.length_cons]
    omega

/-- An object with a text in it is longer than the text. -/
theorem Json.splice_obj_singleton_ne (key text : String) :
    (obj [(key, str text)]).splice ≠ text := by
  intro h
  have hlength := congrArg (fun s => s.toList.length) h
  have hle := length_le_flatMap_escapeChar text.toList
  rw [splice_obj_singleton] at hlength
  simp only [String.toList_append, String.toList_ofList, writeString, List.length_append,
    List.length_cons] at hlength
  omega

namespace Config

/-- A configuration text has a table of variables, and these are they. -/
def Declares (text : String) (presets : Table Toml.Value) : Prop :=
  ∃ fields : Table Data,
    Toml.read? text = some (.map (fields.map fun field => (.text field.1, field.2))) ∧
    Table.get? "variables" fields = some (Toml.Value.table presets).data

/-- The variables of a configuration are those that its text declares. -/
theorem presets_of_declares (text : String) (presets : Table Toml.Value) (config : Config)
    (hd : Declares text presets) (hs : (Toml.Value.table presets).Sorted)
    (hp : parse text = .ok config) :
    config.presets = Toml.Value.entryJson Toml.Value.wrapped presets := by
  obtain ⟨fields, hread, hget⟩ := hd
  obtain ⟨data, m, hdata, hdecode⟩ := decode_of_parse text config hp
  cases hread.symm.trans hdata
  obtain ⟨record, k, k', l, hrecord, hpresets⟩ := presets_of_decode _ config 0 m hdecode
  have hfields : Source.record ["server", "tokens", "variables", "runner"]
      (Data.map (fields.map fun field => (.text field.1, field.2))) =
      Record.ofEntries ["server", "tokens", "variables", "runner"] fields := by
    show (Decode.ofOption (Data.textEntries? _) >>= fun fields => Record.ofEntries _ fields) = _
    rw [Data.textEntries?_map]
    rfl
  rw [hfields, Record.ofEntries] at hrecord
  split at hrecord
  · cases hrecord
    rw [Record.withDefault, Record.field?_of_contains _ fields "variables" (by decide), hget]
      at hpresets
    simp only [Toml.Value.tableOf_data presets hs] at hpresets
    exact (congrArg Prod.fst (Option.some.inj hpresets)).symm
  · cases hrecord

/-- The variables of a configuration are always read, and each is seen with the shape that it has in
the file. It is seen as it is written exactly if there is no date or time in it. The placeholder of
a text is filled with that text, and that of a date or a time with an object around its text. -/
theorem seeded_as_written_iff (presets : Table Toml.Value)
    (hs : (Toml.Value.table presets).Sorted) :
    Decode.run? (Source.tableOf Source.json) (Toml.Value.table presets).data =
      some (Toml.Value.entryJson Toml.Value.wrapped presets) ∧
    ∀ text config, Declares text presets → parse text = .ok config →
      ∀ (scope : ScopeId) (store : Store), scope < store.length →
        let seen := (config.seed scope store).lookup scope
        ∀ key value, (key, value) ∈ presets →
          seen key = some (value.json Toml.Value.wrapped) ∧
          (seen key = some value.asWritten ↔ ¬ value.HasMoment) ∧
          (Template.IsKey key.toList → ∀ content,
            let shown := Template.substitute ("\x7b\x7b" ++ key ++ "\x7d\x7d") seen
            (value = .string content → shown = .ok content) ∧
            (value = .moment content → shown ≠ .ok content ∧
              shown = .ok ("\x7b" ++ String.ofList (Json.writeString Toml.momentKey) ++ ":" ++
                String.ofList (Json.writeString content) ++ "\x7d"))) := by
  refine ⟨?_, ?_⟩
  · rw [Decode.run?, Toml.Value.tableOf_data presets hs]
    rfl
  · intro text config hd hp scope store hscope seen key value hm
    cases hs with
    | table _ ordered sorted =>
      have hpresets := presets_of_declares text presets config hd (.table _ ordered sorted) hp
      have hordered : config.presets.Ordered :=
        hpresets ▸ Toml.Value.ordered_entryJson Toml.Value.wrapped presets ordered
      have hseen : seen key = some (value.json Toml.Value.wrapped) := by
        have hmember : (key, value.json Toml.Value.wrapped) ∈ config.presets := by
          rw [hpresets, Toml.Value.entryJson_eq]
          exact List.mem_map_of_mem (f := fun entry : String × Toml.Value =>
            (entry.1, entry.2.json Toml.Value.wrapped)) hm
        have hfound := (Table.get?_eq_some_iff _ _ _ hordered).mpr hmember
        rw [show seen key = _ from lookup_seed config scope store hscope hordered key, hfound,
          Option.some_or]
      refine ⟨hseen, ?_, ?_⟩
      · rw [hseen, Option.some_inj]
        exact Toml.Value.json_eq_asWritten_iff value (sorted (key, value) hm)
      · intro hkey content shown
        have hshown : shown = .ok (value.json Toml.Value.wrapped).splice := by
          rw [show shown = _ from Template.substitute_placeholder seen key hkey, valueOf,
            hseen]
          rfl
        refine ⟨?_, ?_⟩
        · rintro rfl
          exact hshown
        · rintro rfl
          have htext : shown = .ok (Json.obj [(Toml.momentKey, .str content)]).splice := hshown
          refine ⟨?_, by rw [htext, Json.splice_obj_singleton]⟩
          intro h
          exact Json.splice_obj_singleton_ne Toml.momentKey content
            (Except.ok.inj (htext.symm.trans h))

def datedText : String :=
  "[variables]\nregion = \"north\"\nstart = 2059-11-13\nnights = [2059-11-13, 2059-11-14]\n"

def datedPresets : Table Toml.Value :=
  [("nights", .array [.moment "2059-11-13", .moment "2059-11-14"]), ("region", .string "north"),
    ("start", .moment "2059-11-13")]

theorem declares_dated : Declares datedText datedPresets :=
  ⟨[("variables", (Toml.Value.table datedPresets).data)], by cbv, rfl⟩

theorem sorted_dated : (Toml.Value.table datedPresets).Sorted := by
  refine .table datedPresets (by unfold Table.Ordered; decide) fun entry he => ?_
  simp only [datedPresets, List.mem_cons, List.not_mem_nil, or_false] at he
  rcases he with rfl | rfl | rfl
  · refine .array _ fun item hm => ?_
    simp only [List.mem_cons, List.not_mem_nil, or_false] at hm
    rcases hm with rfl | rfl <;> exact .moment _
  · exact .string _
  · exact .moment _

/-- The text arrives as it is written; the date does not, and neither does the list of dates. -/
theorem seeded_as_written_iff_dated :
    (Toml.Value.table datedPresets).Sorted ∧ Declares datedText datedPresets ∧
    ∃ config, parse datedText = .ok config ∧
      let seen := (config.seed Bench.scope (Store.addRoot []).1).lookup Bench.scope
      seen "region" = some (.str "north") ∧
      Template.substitute ("\x7b\x7b" ++ "region" ++ "\x7d\x7d") seen = .ok "north" ∧
      seen "start" ≠ some (.str "2059-11-13") ∧
      Template.substitute ("\x7b\x7b" ++ "start" ++ "\x7d\x7d") seen ≠ .ok "2059-11-13" ∧
      seen "nights" ≠ some (.arr [.str "2059-11-13", .str "2059-11-14"]) := by
  obtain ⟨-, hseeded⟩ := seeded_as_written_iff datedPresets sorted_dated
  obtain ⟨config, hparse⟩ := ok_of_toBool (parse datedText) (by decide +kernel)
  have hat := hseeded datedText config declares_dated hparse Bench.scope (Store.addRoot []).1
    (by decide)
  obtain ⟨-, hregion, hshown⟩ := hat "region" (.string "north") (by simp [datedPresets])
  obtain ⟨-, hstart, hunshown⟩ := hat "start" (.moment "2059-11-13") (by simp [datedPresets])
  obtain ⟨-, hnights, -⟩ := hat "nights" _ (List.mem_cons_self ..)
  refine ⟨sorted_dated, declares_dated, config, hparse, hregion.mpr nofun, ?_, ?_, ?_, ?_⟩
  · exact (hshown (Template.isKey_of_all _ (by decide) (by decide)) "north").1 rfl
  · exact fun h => hstart.mp h (.moment _)
  · exact ((hunshown (Template.isKey_of_all _ (by decide) (by decide)) "2059-11-13").2 rfl).1
  · exact fun h => hnights.mp h (.item _ _ List.mem_cons_self (.moment _))

end Config
end ApiTrial
