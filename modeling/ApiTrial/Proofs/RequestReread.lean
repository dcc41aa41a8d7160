import ApiTrial.Proofs.JsonText
import ApiTrial.Request.Decode

/-! Requests read back from their JSON form. Each reader of a field undoes what wrote the field.
What is read differs from what was written in the body alone: a value that is null is read as no
body, and a value that is a string as text. -/
namespace ApiTrial

namespace Json

inductive Sorted : Json → Prop
  | null : Sorted null
  | bool (value : Bool) : Sorted (bool value)
  | int (value : Int) : Sorted (int value)
  | float (value : Binary64) : Sorted (float value)
  | str (text : String) : Sorted (str text)
  | arr (items : List Json) (sorted : ∀ item ∈ items, Sorted item) : Sorted (arr items)
  | obj (members : Table Json) (ordered : members.Ordered)
      (sorted : ∀ member ∈ members, Sorted member.2) : Sorted (obj members)

end Json

namespace Data

theorem toItems?_ofItems (items : List Json)
    (h : ∀ item ∈ items, (ofJson item).toJson? = some item) :
    toItems? (ofItems items) = some items := by
  induction items with
  | nil => rfl
  | cons item rest ih =>
    obtain ⟨hitem, hrest⟩ := List.forall_mem_cons.mp h
    rw [ofItems, toItems?, hitem, ih hrest]
    rfl

theorem toMembers?_ofMembers (members : List (String × Json))
    (h : ∀ member ∈ members, (ofJson member.2).toJson? = some member.2) :
    toMembers? (ofMembers members) = some members := by
  induction members with
  | nil => rfl
  | cons member rest ih =>
    obtain ⟨hmember, hrest⟩ := List.forall_mem_cons.mp h
    rw [ofMembers, toMembers?, hmember, ih hrest]
    rfl

/-- A value is the same after a detour over data. -/
theorem toJson?_ofJson (value : Json) (h : value.Sorted) : (ofJson value).toJson? = some value := by
  induction h with
  | null => rfl
  | bool value => rfl
  | int value => rfl
  | float value => rfl
  | str text => rfl
  | arr items sorted ih => rw [ofJson, toJson?, toItems?_ofItems items ih, Option.map_some]
  | obj members ordered sorted ih =>
    rw [ofJson, toJson?, toMembers?_ofMembers members ih, Option.map_some,
      Json.ofMembers_of_ordered members ordered]

end Data

theorem eraseDups_of_nodup {α : Type} [BEq α] [LawfulBEq α] (l : List α) (h : l.Nodup) :
    l.eraseDups = l := by
  induction l with
  | nil => rfl
  | cons a rest ih =>
    obtain ⟨ha, hrest⟩ := List.nodup_cons.mp h
    have hkept : (rest.filter fun b => !b == a) = rest := by
      rw [List.filter_eq_self]
      intro b hb
      have hne : b ≠ a := fun he => ha (he ▸ hb)
      simpa using hne
    rw [List.eraseDups_cons, hkept, ih hrest]

namespace Record
variable {σ : Type}

/-- The record of a table has no field twice. -/
theorem ofEntries_of_ordered (names : List String) (members : Table σ) (h : members.Ordered) :
    Record.ofEntries names members =
      pure ⟨false, members.filter fun entry => names.contains entry.1⟩ := by
  have hnodup : ((members.filter fun entry => names.contains entry.1).map (·.1)).Nodup := by
    rw [List.Nodup, List.pairwise_map]
    exact (List.Pairwise.filter _ h).imp fun hlt => ne_of_lt hlt
  rw [Record.ofEntries, eraseDups_of_nodup _ hnodup, List.length_map]
  exact if_pos rfl

theorem find?_eq_get? (members : Table σ) (name : String) :
    (members.find? fun field => field.1 == name).map (·.2) = members.get? name := by
  induction members with
  | nil => rfl
  | cons first rest ih =>
    rw [List.find?_cons, Table.get?, ← ih]
    by_cases hn : first.1 = name
    · simp [hn]
    · rw [if_neg hn, beq_eq_false_iff_ne.mpr hn]

/-- A declared field of the record of a table is what the table holds under its name. -/
theorem field?_of_contains (names : List String) (members : Table σ) (name : String)
    (hn : names.contains name = true) :
    field? ⟨false, members.filter fun entry => names.contains entry.1⟩ name =
      members.get? name := by
  have hfound (field : String × σ) :
      decide (names.contains field.1 = true ∧ (field.1 == name) = true) = (field.1 == name) := by
    by_cases he : field.1 = name
    · simpa [he] using hn
    · simp [he]
  rw [field?, List.find?_filter, ← find?_eq_get?]
  simp only [hfound]

end Record

section Fields

theorem Method.decode_word (m : Method) : Method.decode (Json.str m.word) = pure m := by
  cases m <;> rfl

theorem Source.tableOf_text (table : Table String) (h : table.Ordered) :
    Source.tableOf Source.text (Json.obj (table.map fun entry => (entry.1, .str entry.2))) =
      pure table := by
  have hentries : (table.map fun entry => (entry.1, Json.str entry.2)).mapM
      (fun entry => do return (entry.1, ← Source.text entry.2)) = (pure table : Decode _) := by
    rw [List.mapM_map]
    exact List.mapM_pure.trans (congrArg pure (List.map_id table))
  show (do
    let entries ← (table.map fun entry => (entry.1, Json.str entry.2)).mapM
      (fun entry => do return (entry.1, ← Source.text entry.2))
    return Table.ofEntries entries : Decode (Table String)) = _
  rw [hentries, pure_bind, Table.ofEntries_of_ordered table h]

end Fields

namespace BodyTemplate

def reread? : BodyTemplate → Option BodyTemplate
  | json .null => none
  | json (.str source) => some (text source)
  | body => some body

def form : BodyTemplate → Json
  | text source => .str source
  | json value => value

/-- A value that is not a string is a body as it is. -/
theorem decode_of_sorted (value : Json) (h : value.Sorted) (hv : ∀ text, value ≠ .str text) :
    BodyTemplate.decode value = (pure (json value) : Decode BodyTemplate) := by
  have hdata : Source.data value = (pure (Data.ofJson value) : Decode Data) := rfl
  have hback := Data.toJson?_ofJson value h
  rw [BodyTemplate.decode, hdata, pure_bind]
  cases value with
  | str text => exact absurd rfl (hv text)
  | arr items =>
    rw [Data.ofJson] at hback ⊢
    simp only [hback]
    rfl
  | obj members =>
    rw [Data.ofJson] at hback ⊢
    simp only [hback]
    rfl
  | _ => rfl

theorem optionOf_form (body : BodyTemplate) (h : ∀ value, body = json value → value.Sorted) :
    Source.optionOf BodyTemplate.decode body.form = pure body.reread? := by
  have hread (value : Json) (hd : Source.option value = (pure (some value) : Decode (Option Json)))
      (hs : value.Sorted) (hv : ∀ text, value ≠ .str text) :
      Source.optionOf BodyTemplate.decode value = pure (some (json value)) := by
    have hdecode := decode_of_sorted value hs hv
    rw [Source.optionOf, hd, pure_bind]
    simp only [hdecode, pure_bind]
  cases body with
  | text source => rfl
  | json value =>
    cases value with
    | null => rfl
    | str text => rfl
    | _ => exact hread _ rfl (h _ rfl) nofun

end BodyTemplate

namespace RequestTemplate

def reread (request : RequestTemplate) : RequestTemplate :=
  { request with body := request.body.bind BodyTemplate.reread? }

def members (request : RequestTemplate) : List (String × Json) :=
  [("method", .str request.method.word), ("path", .str request.path),
    ("headers", .obj (request.headers.map fun entry => (entry.1, .str entry.2)))] ++
  request.auth.toList.map (fun role => ("auth", .str role)) ++
  request.body.toList.map fun body => ("body", body.form)

theorem toJson_eq (request : RequestTemplate) :
    request.toJson = Json.ofMembers request.members := by
  rw [toJson, members]
  cases request.body with
  | none => rfl
  | some body => cases body <;> rfl

theorem get?_members (request : RequestTemplate) :
    let fields := Table.ofEntries request.members
    fields.get? "method" = some (.str request.method.word) ∧
    fields.get? "path" = some (.str request.path) ∧
    fields.get? "headers" =
      some (.obj (request.headers.map fun entry => (entry.1, .str entry.2))) ∧
    fields.get? "auth" = request.auth.map Json.str ∧
    fields.get? "body" = request.body.map BodyTemplate.form := by
  rw [members]
  cases request.auth <;> cases request.body <;>
    simp [Table.get?_ofEntries_cons, Table.get?_ofEntries_nil]

/-- The form of a request is one level deeper than its body. -/
theorem fits_toJson (request : RequestTemplate) (ho : request.headers.Ordered)
    (hf : ∀ value, request.body = some (.json value) →
      value.Fits (fun _ => True) (Json.nestingLimit - 1)) :
    request.toJson.Fits (fun _ => True) Json.nestingLimit := by
  have hordered : (Table.ofEntries request.members).Ordered := Table.ordered_ofEntries _
  have hheaders : (Json.obj (request.headers.map fun entry => (entry.1, .str entry.2))).Fits
      (fun _ => True) (Json.nestingLimit - 1) := by
    refine .obj 125 _ (List.pairwise_map.mpr ho) (fun _ _ => True.intro) fun member hm => ?_
    obtain ⟨header, -, rfl⟩ := List.mem_map.mp hm
    exact .str _ _
  rw [toJson_eq]
  refine .obj 126 _ hordered (fun _ _ => True.intro) fun member hm => ?_
  have hmember : member ∈ request.members :=
    Table.mem_of_get?_ofEntries _ _ _ ((Table.get?_eq_some_iff _ _ _ hordered).mpr hm)
  rw [members, List.mem_append, List.mem_append, List.mem_map, List.mem_map] at hmember
  rcases hmember with (hfixed | ⟨role, -, rfl⟩) | ⟨body, hb, rfl⟩
  · simp only [List.mem_cons, List.not_mem_nil, or_false] at hfixed
    rcases hfixed with rfl | rfl | rfl
    · exact .str _ _
    · exact .str _ _
    · exact hheaders
  · exact .str _ _
  · cases body with
    | text source => exact .str _ _
    | json value => exact hf value (Option.mem_toList.mp hb)

/-- A request is read from its form field by field. -/
theorem decode_toJson (request : RequestTemplate) (ho : request.headers.Ordered)
    (hb : ∀ value, request.body = some (.json value) → value.Sorted) :
    RequestTemplate.decode request.toJson = pure request.reread := by
  have hordered : (Table.ofEntries request.members).Ordered := Table.ordered_ofEntries _
  obtain ⟨hmethod, hpath, hheaders, hauth, hbody⟩ := request.get?_members
  have hfield (name : String) (hn : fieldNames.contains name = true) :=
    Record.field?_of_contains fieldNames (Table.ofEntries request.members) name hn
  rw [toJson_eq]
  show Record.ofEntries fieldNames (Table.ofEntries request.members) >>= ofRecord = _
  rw [Record.ofEntries_of_ordered fieldNames _ hordered, pure_bind, ofRecord]
  simp only [Record.required, Record.withDefault]
  rw [hfield "method" (by decide), hfield "path" (by decide), hfield "headers" (by decide),
    hfield "auth" (by decide), hfield "body" (by decide), hmethod, hpath, hheaders, hauth, hbody]
  have htext (content : String) : Source.text (Json.str content) = (pure content : Decode _) := rfl
  have hrole (role : String) :
      Source.optionOf Source.text (Json.str role) = (pure (some role) : Decode _) := rfl
  simp only [Method.decode_word, htext, Source.tableOf_text _ ho, pure_bind]
  cases ha : request.auth <;> cases hb' : request.body with
  | none => simp only [reread, ha, hb', hrole, Option.map_none, Option.map_some, Option.bind_none,
      pure_bind]
  | some body =>
    have hform := BodyTemplate.optionOf_form body fun value hv => hb value (hv ▸ hb')
    simp only [reread, ha, hb', hform, hrole, Option.map_none, Option.map_some, Option.bind_some,
      pure_bind]

end RequestTemplate

end ApiTrial
