import ApiTrial.Proofs.BodyFilled
import ApiTrial.Proofs.RequestReread

/-! What a request that is read back is filled in to. A body that is null is read as no body, and a
string as text, which is filled in without its quotes. Nothing else is read differently, and these
two show in some environment unless the request is never filled in at all. To tell a text from the
same text in quotes, an environment is enough in which every key stands for nothing: it leaves as
many quotes as there were. -/
namespace ApiTrial

namespace Template
open Text

def Blank (_key : String) (value : Json) : Prop := value = .str ""

/-- Holes have no quotes in them, so text that is filled in with nothing keeps its quotes. -/
theorem count_quote_of_fills (text filled : List Char) (h : Fills Blank text filled) :
    filled.count '\x22' = text.count '\x22' := by
  induction h with
  | nil => rfl
  | char c rest filled hc hrest ih => rw [List.count_cons, List.count_cons, ih]
  | hole inside rest after filled value hclose hkey hvalue hrest ih =>
    have hinside : inside.count '\x22' = 0 :=
      List.count_eq_zero.mpr (Json.not_mem_of_isKey inside hkey).1
    have hnothing : value.splice.toList = [] := by
      rw [show value = .str "" from hvalue]
      rfl
    rw [hnothing, List.nil_append, ih, hclose.eq, List.count_append, List.count_append,
      List.count_append, hinside, Nat.zero_add]
    show rest.count '\x22' = 0 + (0 + rest.count '\x22')
    omega

def listed (source : String) : List String := (RequestTemplate.keysOf source).toOption.getD []

variable (value? : String → Option Json)

theorem substitute_ok (source : String) (template : Template) (h : parse source = .ok template)
    (hset : ∀ key ∈ listed source, (value? key).isSome = true) :
    ∃ text, substitute source value? = .ok text := by
  have hkeys : RequestTemplate.keysOf source = .ok (listed source) := by
    rw [listed, RequestTemplate.keysOf, h]
    rfl
  exact (needs_substitute source).fills value? _ hkeys hset

/-- A text whose keys are set is filled in, unless it is faulty itself. -/
theorem substitute_ok_or_malformed (source : String)
    (hset : ∀ key ∈ listed source, (value? key).isSome = true) :
    (∃ text, substitute source value? = .ok text) ∨
    ∃ offset reason,
      substitute source value? = .error (.malformedTemplate source offset reason) := by
  cases hp : parse source with
  | ok template => exact Or.inl (substitute_ok value? source template hp hset)
  | error e =>
    have he : substitute source value? = .error e := by rw [substitute, hp]
    rw [parse] at hp
    split at hp
    · cases hp
    · cases hp
      exact Or.inr ⟨_, _, he⟩

end Template

namespace Json
open Template

theorem count_quote_escapeChar (c : Char) : (escapeChar c).count '\x22' = [c].count '\x22' := by
  have hdigit : ∀ n < 0x20, hexDigit (n / 16) ≠ '\x22' ∧ hexDigit (n % 16) ≠ '\x22' := by decide
  rw [escapeChar]
  split_ifs with hquote hslash hb ht hn hf hr hcontrol
  iterate 7 next => subst_vars; rfl
  · obtain ⟨hhigh, hlow⟩ := hdigit c.toNat hcontrol
    simp [hhigh, hlow, hquote]
  · rfl

theorem count_quote_flatMap (text : List Char) :
    (text.flatMap escapeChar).count '\x22' = text.count '\x22' := by
  induction text with
  | nil => rfl
  | cons c rest ih =>
    rw [List.flatMap_cons, List.count_append, ih, count_quote_escapeChar, ← List.count_append]
    rfl

/-- A written string has the quotes of the text and two around it. -/
theorem count_quote_render (text : String) :
    (render (str text)).toList.count '\x22' = text.toList.count '\x22' + 2 := by
  rw [render, String.toList_ofList, write, writeString]
  simp [count_quote_flatMap]

end Json

namespace RequestTemplate
open Template

inductive Built : RequestTemplate → Prop
  | new (method : Method) (path : String) : Built (new method path)
  | header (request : RequestTemplate) (name value : String) (built : Built request) :
      Built (request.withHeader name value)
  | auth (request : RequestTemplate) (role : String) (built : Built request) :
      Built (request.withAuth role)
  | text (request : RequestTemplate) (source : String) (built : Built request) :
      Built (request.withText source)
  | json (request : RequestTemplate) (value : Json) (sorted : value.Sorted)
      (built : Built request) : Built (request.withJson value)

def sources (request : RequestTemplate) : List String := request.path :: request.headers.map (·.2)

/-- One of the texts in front of the body is faulty, so the request is never filled in. -/
def Unfillable (request : RequestTemplate) : Prop :=
  ∃ source ∈ request.sources, ∃ e, parse source = .error e

/-- The body is a value that is read back as something else: null or a string. -/
def LosesBody (request : RequestTemplate) : Prop :=
  ∃ value, request.body = some (.json value) ∧ (value = .null ∨ ∃ text, value = .str text)

section Building
variable (request : RequestTemplate) (h : Built request)
include h

theorem ordered_of_built : request.headers.Ordered := by
  induction h with
  | new method path => exact List.Pairwise.nil
  | header request name value built ih => exact Table.ordered_insert name value request.headers ih
  | auth request role built ih => exact ih
  | text request source built ih => exact ih
  | json request value sorted built ih => exact ih

theorem sorted_of_built (value : Json) (hv : request.body = some (.json value)) :
    value.Sorted := by
  induction h with
  | new method path => cases hv
  | header request name content built ih => exact ih hv
  | auth request role built ih => exact ih hv
  | text request source built ih => cases hv
  | json request other sorted built ih =>
    cases hv
    exact sorted

end Building

/-- A body that is neither null nor a string is read as it is. -/
theorem reread_eq (request : RequestTemplate) (h : ¬ request.LosesBody) :
    request.reread = request := by
  have hbody : request.body.bind BodyTemplate.reread? = request.body := by
    cases hb : request.body with
    | none => rfl
    | some body =>
      cases body with
      | text source => rfl
      | json value =>
        cases value with
        | null => exact absurd ⟨_, hb, Or.inl rfl⟩ h
        | str text => exact absurd ⟨_, hb, Or.inr ⟨text, rfl⟩⟩ h
        | _ => rfl
  rw [reread, hbody]

section Filling
variable (request : RequestTemplate) (value? : String → Option Json)

def envelope : Except Error (String × List (String × String)) := do
  let path ← substitute request.path value?
  let defaults ← request.defaultHeaders value?
  let headers ← resolveHeaders value? defaults request.headers
  return (path, headers)

theorem resolve_eq_envelope : request.resolve value? = request.envelope value? >>= fun parts =>
    (resolveBody value? request.body).map fun body =>
      ⟨request.method, parts.1, parts.2, body⟩ := by
  simp only [resolve_eq, envelope, bind_assoc, pure_bind]

/-- Once all before it is filled in, the body is what is left to fill in. -/
theorem map_body_resolve (parts : String × List (String × String))
    (h : request.envelope value? = .ok parts) :
    (request.resolve value?).map ResolvedRequest.body = resolveBody value? request.body := by
  rw [resolve_eq_envelope, h]
  show ((resolveBody value? request.body).map _).map _ = _
  cases resolveBody value? request.body <;> rfl

/-- A faulty value fails all headers, whatever is in front of them. -/
theorem resolveHeaders_of_faulty (headers : List (String × String))
    (h : ∃ header ∈ headers, ∃ e, parse header.2 = .error e) :
    ∃ e, ∀ before, resolveHeaders value? before headers = .error e := by
  induction headers with
  | nil => simp at h
  | cons first rest ih =>
    cases hs : substitute first.2 value? with
    | error e =>
      refine ⟨e, fun before => ?_⟩
      rw [resolveHeaders, hs]
      rfl
    | ok text =>
      have hrest : ∃ header ∈ rest, ∃ e, parse header.2 = .error e := by
        obtain ⟨header, hm, e, he⟩ := h
        rcases List.mem_cons.mp hm with rfl | hm
        · rw [substitute, he] at hs
          cases hs
        · exact ⟨header, hm, e, he⟩
      obtain ⟨e, he⟩ := ih hrest
      refine ⟨e, fun before => ?_⟩
      rw [resolveHeaders, hs]
      exact he _

/-- A request that is never filled in fails alike with any body. -/
theorem envelope_of_unfillable (h : request.Unfillable) :
    ∃ e, ∀ body, envelope { request with body } value? = .error e := by
  obtain ⟨source, hm, fault, hfault⟩ := h
  cases hp : substitute request.path value? with
  | error e =>
    refine ⟨e, fun body => ?_⟩
    simp only [envelope, hp]
    rfl
  | ok path =>
    have hheader : ∃ header ∈ request.headers, ∃ e, parse header.2 = .error e := by
      rcases List.mem_cons.mp hm with rfl | hm
      · rw [substitute, hfault] at hp
        cases hp
      · obtain ⟨header, hh, rfl⟩ := List.mem_map.mp hm
        exact ⟨header, hh, fault, hfault⟩
    obtain ⟨e, he⟩ := resolveHeaders_of_faulty value? request.headers hheader
    cases request.auth with
    | none =>
      refine ⟨e, fun body => ?_⟩
      simp only [envelope, hp, defaultHeaders, he]
      rfl
    | some role =>
      cases ht : tokenHeader value? role with
      | error lacking =>
        refine ⟨lacking, fun body => ?_⟩
        simp only [envelope, hp, defaultHeaders, ht]
        rfl
      | ok token =>
        refine ⟨e, fun body => ?_⟩
        simp only [envelope, hp, defaultHeaders, ht, he]
        rfl

theorem resolveHeaders_ok (headers before : List (String × String))
    (h : ∀ header ∈ headers, ∃ text, substitute header.2 value? = .ok text) :
    ∃ result, resolveHeaders value? before headers = .ok result := by
  induction headers generalizing before with
  | nil => exact ⟨before, rfl⟩
  | cons first rest ih =>
    obtain ⟨⟨text, htext⟩, hrest⟩ := List.forall_mem_cons.mp h
    obtain ⟨result, hr⟩ := ih (replaceHeader before first.1 text) hrest
    refine ⟨result, ?_⟩
    rw [resolveHeaders, htext]
    exact hr

/-- With every source and every token at hand, all but the body is filled in. -/
theorem envelope_ok (h : ∀ source ∈ request.sources, ∃ text, substitute source value? = .ok text)
    (ht : ∀ role ∈ request.auth, (value? (tokenKey role)).isSome = true) :
    ∃ parts, request.envelope value? = .ok parts := by
  obtain ⟨⟨path, hpath⟩, hheaders⟩ := List.forall_mem_cons.mp h
  obtain ⟨defaults, hdefaults⟩ : ∃ defaults, request.defaultHeaders value? = .ok defaults := by
    apply request.needs_defaultHeaders.fills value? _ rfl
    intro key hk
    obtain ⟨role, hm, rfl⟩ := List.mem_map.mp hk
    exact ht role (Option.mem_toList.mp hm)
  obtain ⟨headers, hh⟩ := resolveHeaders_ok value? request.headers defaults fun header hm =>
    hheaders header.2 (List.mem_map_of_mem hm)
  refine ⟨(path, headers), ?_⟩
  rw [envelope, hpath, hdefaults]
  show (do return (path, ← resolveHeaders value? defaults request.headers) : Except Error _) = _
  rw [hh]
  rfl

end Filling

section Telling

def blanks (keys : List String) : Store :=
  [⟨Store.rootPath, none, Table.ofEntries (keys.map fun key => (key, some (.str "")))⟩]

theorem lookup_blanks (keys : List String) (key : String) :
    (blanks keys).lookup 0 key = if key ∈ keys then some (.str "") else none := by
  have hslot : (Table.ofEntries (keys.map fun key => (key, some (Json.str "")))).get? key =
      if key ∈ keys then some (some (.str "")) else none := by
    induction keys with
    | nil => rfl
    | cons first rest ih =>
      rw [List.map_cons, Table.get?_ofEntries_cons, ih]
      by_cases hrest : key ∈ rest
      · simp [hrest]
      · simp [hrest, eq_comm]
  rw [blanks, Store.lookup, if_pos (show 0 = ([] : Store).length from rfl), hslot]
  by_cases hk : key ∈ keys <;> simp [hk]

def envelopeKeys (request : RequestTemplate) : List String :=
  request.sources.flatMap listed ++ request.auth.toList.map tokenKey

/-- Where its keys stand for nothing, a request is filled in up to its body. -/
theorem envelope_blanks (request : RequestTemplate) (more : List String)
    (hu : ¬ request.Unfillable) :
    ∃ parts, request.envelope ((blanks (request.envelopeKeys ++ more)).lookup 0) = .ok parts := by
  have hset (key : String) (hm : key ∈ request.envelopeKeys) :
      ((blanks (request.envelopeKeys ++ more)).lookup 0 key).isSome = true := by
    rw [lookup_blanks, if_pos (List.mem_append_left more hm)]
    rfl
  apply envelope_ok
  · intro source hs
    cases hp : parse source with
    | error e => exact absurd ⟨source, hs, e, hp⟩ hu
    | ok template =>
      apply substitute_ok _ source template hp
      intro key hm
      exact hset key (List.mem_append_left _ (List.mem_flatMap.mpr ⟨source, hs, hm⟩))
  · intro role hm
    have hrole := List.mem_map_of_mem (f := tokenKey) (Option.mem_toList.mpr hm)
    exact hset _ (List.mem_append_right _ hrole)

/-- With null for a body a request is sent with a body, and without one it is not. -/
theorem resolve_null_ne (request : RequestTemplate) (value? : String → Option Json)
    (hok : ∀ body, ∃ parts, envelope { request with body } value? = .ok parts) :
    resolve { request with body := none } value? ≠
      resolve { request with body := some (.json .null) } value? := by
  obtain ⟨without, hwithout⟩ := hok none
  obtain ⟨parts, hparts⟩ := hok (some (.json .null))
  have hnull : resolveBody value? (some (.json .null)) = .ok (some "null") := by
    have hplain : substitute "null" value? = .ok "null" :=
      substitute_of_plain value? "null" (by decide +kernel)
    show (substitute "null" value?).map some = _
    rw [hplain]
    rfl
  intro he
  have hbody := congrArg (Except.map ResolvedRequest.body) he
  rw [map_body_resolve _ value? without hwithout, map_body_resolve _ value? parts hparts,
    hnull] at hbody
  cases hbody

/-- A string and its text are filled in differently where every key stands for nothing. -/
theorem substitute_render_ne (text : String) (value? : String → Option Json)
    (hblank : ∀ key value, value? key = some value → Blank key value)
    (hset : ∀ key ∈ listed text ++ listed (Json.str text).render, (value? key).isSome = true) :
    substitute text value? ≠ substitute (Json.str text).render value? := by
  have hquotes := Json.count_quote_render text
  have hfilled (source filled : String) (h : substitute source value? = .ok filled) :
      filled.toList.count '\x22' = source.toList.count '\x22' := by
    obtain ⟨keys, hkeys, -⟩ := (needs_substitute source).sets value? filled h
    exact count_quote_of_fills _ _ (fills_of_substitute Blank value? source filled keys hkeys h
      fun key _ value hv => hblank key value hv)
  obtain ⟨htext, hrender⟩ := List.forall_mem_append.mp hset
  intro he
  rcases substitute_ok_or_malformed value? text htext with ⟨filled, hf⟩ | ⟨offset, reason, hf⟩
  · -- Both are filled in to the same text, which has the quotes of either.
    have hown := hfilled _ _ hf
    have hother := hfilled _ _ (he ▸ hf)
    omega
  · rcases substitute_ok_or_malformed value? _ hrender with
      ⟨filled, hg⟩ | ⟨offset', reason', hg⟩
    · rw [hf, hg] at he
      cases he
    · -- Both are faulty, and each fault names its text.
      rw [hf, hg] at he
      injection he with he
      injection he with he
      rw [← he] at hquotes
      omega

/-- With a string for a body a request is sent with its quotes, and with its text without them. -/
theorem resolve_str_ne (request : RequestTemplate) (text : String) (value? : String → Option Json)
    (hok : ∀ body, ∃ parts, envelope { request with body } value? = .ok parts)
    (hblank : ∀ key value, value? key = some value → Blank key value)
    (hset : ∀ key ∈ listed text ++ listed (Json.str text).render, (value? key).isSome = true) :
    resolve { request with body := some (.text text) } value? ≠
      resolve { request with body := some (.json (.str text)) } value? := by
  obtain ⟨parts, hparts⟩ := hok (some (.text text))
  obtain ⟨parts', hparts'⟩ := hok (some (.json (.str text)))
  have hsome (filled : Except Error String) : (filled.map some).map (·.getD "") = filled := by
    cases filled <;> rfl
  intro he
  have hbody := congrArg (Except.map ResolvedRequest.body) he
  rw [map_body_resolve _ value? parts hparts, map_body_resolve _ value? parts' hparts'] at hbody
  have hfilled := congrArg (Except.map (·.getD "")) hbody
  simp only [resolveBody, BodyTemplate.source, hsome] at hfilled
  exact substitute_render_ne text value? hblank hset hfilled

/-- A body that is lost shows, unless the request is never filled in. -/
theorem exists_resolve_ne (request : RequestTemplate) (hl : request.LosesBody)
    (hu : ¬ request.Unfillable) : ∃ (store : Store) (scope : ScopeId),
      request.reread.resolve (store.lookup scope) ≠ request.resolve (store.lookup scope) := by
  obtain ⟨value, hbody, hvalue⟩ := hl
  have hrequest : { request with body := some (.json value) } = request := by rw [← hbody]
  have hreread : request.reread =
      { request with body := BodyTemplate.reread? (.json value) } := by
    rw [reread, hbody, Option.bind_some]
  have hok (more : List String) (body : Option BodyTemplate) : ∃ parts,
      envelope { request with body } ((blanks (request.envelopeKeys ++ more)).lookup 0) =
        .ok parts :=
    envelope_blanks { request with body } more hu
  rcases hvalue with rfl | ⟨text, rfl⟩
  · have hne := resolve_null_ne request _ (hok [])
    rw [hrequest] at hne
    exact ⟨_, 0, hreread ▸ hne⟩
  · let bodies := listed text ++ listed (Json.str text).render
    have hne := resolve_str_ne request text ((blanks (request.envelopeKeys ++ bodies)).lookup 0)
      (hok bodies)
    rw [hrequest] at hne
    refine ⟨_, 0, hreread ▸ hne ?_ ?_⟩
    · intro key value hv
      rw [lookup_blanks] at hv
      split_ifs at hv
      exact (Option.some.inj hv).symm
    · intro key hm
      rw [lookup_blanks, if_pos (List.mem_append_right _ hm)]
      rfl

end Telling

/-- Every request that can be built is read back from its JSON form, and from the text of the form
if the text can hold the body. A body that is null is not read back, and one that is a string is
read back as text; all else is as it was. Such a body shows in some environment, unless the path or
a header value is faulty: then both requests fail alike everywhere. -/
theorem serialised_resolves_alike_iff (request : RequestTemplate) (h : Built request) :
    ∃ reread, Decode.run? RequestTemplate.decode request.toJson = some reread ∧
      ((∀ value, request.body = some (.json value) →
          value.Fits (fun _ => True) (Json.nestingLimit - 1)) →
        (Json.parse? request.toJson.render).bind (Decode.run? RequestTemplate.decode) =
          some reread) ∧
      (request.body = some (.json .null) → reread = { request with body := none }) ∧
      (∀ text, request.body = some (.json (.str text)) →
        reread = { request with body := some (.text text) }) ∧
      (¬ request.LosesBody → reread = request) ∧
      ((∀ (store : Store) (scope : ScopeId),
          reread.resolve (store.lookup scope) = request.resolve (store.lookup scope)) ↔
        ¬ request.LosesBody ∨ request.Unfillable) := by
  have ho := ordered_of_built request h
  have hread : Decode.run? RequestTemplate.decode request.toJson = some request.reread := by
    rw [Decode.run?, decode_toJson request ho (sorted_of_built request h)]
    rfl
  refine ⟨request.reread, hread, ?_, ?_, ?_, reread_eq request, ?_, ?_⟩
  · intro hf
    rw [Json.parse?_render _ _ (fits_toJson request ho hf), Option.bind_some, hread]
  · intro hnull
    rw [reread, hnull]
    rfl
  · intro text htext
    rw [reread, htext]
    rfl
  · intro halike
    by_contra hnot
    rw [not_or, not_not] at hnot
    obtain ⟨store, scope, hne⟩ := exists_resolve_ne request hnot.1 hnot.2
    exact hne (halike store scope)
  · rintro (hkept | hu) store scope
    · rw [reread_eq request hkept]
    · obtain ⟨e, he⟩ := envelope_of_unfillable request (store.lookup scope) hu
      rw [resolve_eq_envelope, resolve_eq_envelope, reread, he, he request.body]
      rfl

def noteRequest : RequestTemplate := (new .post "/notes").withJson (.str "hi")

/-- The string is read back as text, and sent without its quotes. -/
theorem serialised_resolves_alike_iff_note :
    Built noteRequest ∧ noteRequest.LosesBody ∧ ∃ reread,
      (Json.parse? noteRequest.toJson.render).bind (Decode.run? RequestTemplate.decode) =
        some reread ∧
      ¬ ∀ (store : Store) (scope : ScopeId),
        reread.resolve (store.lookup scope) = noteRequest.resolve (store.lookup scope) := by
  have hbuilt : Built noteRequest := .json _ _ (.str "hi") (.new .post "/notes")
  have hloses : noteRequest.LosesBody := ⟨_, rfl, Or.inr ⟨"hi", rfl⟩⟩
  have hfillable : ¬ noteRequest.Unfillable := by
    rintro ⟨source, hm, e, he⟩
    have hsource : source = "/notes" := List.mem_singleton.mp hm
    have hok : parse "/notes" = .ok ⟨"/notes", [.literal "/notes"]⟩ := by decide +kernel
    rw [hsource, hok] at he
    cases he
  obtain ⟨reread, -, htext, -, -, -, halike⟩ := serialised_resolves_alike_iff noteRequest hbuilt
  refine ⟨hbuilt, hloses, reread, htext ?_, ?_⟩
  · rintro value ⟨⟩
    exact .str _ "hi"
  · rw [halike]
    rintro (hkept | hu)
    · exact hkept hloses
    · exact hfillable hu

end RequestTemplate
end ApiTrial
