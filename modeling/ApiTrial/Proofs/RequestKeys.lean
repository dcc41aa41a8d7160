import ApiTrial.Request.Basic
import Mathlib.Data.List.Basic

/-! Which keys a request needs. Listing the keys and filling them in are two walks over the parts of
a request, in different orders. `Needs` ties a list of keys to what is filled in with them; it holds
of every text, it is kept where one part follows another, and the order of the keys is of no
importance to it. -/
namespace ApiTrial

/-- The listed keys are what a value is filled in from: it is there only if all of them are set, else
one that is unset is to blame, and other keys make no difference. -/
structure Needs {α : Type} (listed : Except Error (List String))
    (fill : (String → Option Json) → Except Error α) : Prop where
  sets : ∀ value? a, fill value? = .ok a →
    ∃ keys, listed = .ok keys ∧ ∀ key ∈ keys, (value? key).isSome = true
  lacks : ∀ keys value? e, listed = .ok keys → fill value? = .error e →
    ∃ key ∈ keys, value? key = none ∧ e = .undefinedVariable key
  reads : ∀ keys value? other?, listed = .ok keys → (∀ key ∈ keys, value? key = other? key) →
    fill value? = fill other?

section Parts
variable {α β : Type}

/-- With all of the listed keys set, the value is there. -/
theorem Needs.fills {listed : Except Error (List String)}
    {fill : (String → Option Json) → Except Error α} (needs : Needs listed fill)
    (value? : String → Option Json) (keys : List String) (hk : listed = .ok keys)
    (hset : ∀ key ∈ keys, (value? key).isSome = true) : ∃ a, fill value? = .ok a := by
  cases h : fill value? with
  | ok a => exact ⟨a, rfl⟩
  | error e =>
    obtain ⟨key, hm, hnone, -⟩ := needs.lacks keys value? e hk h
    have hsome := hset key hm
    rw [hnone] at hsome
    cases hsome

def bothListed (first second : Except Error (List String)) : Except Error (List String) := do
  return (← first) ++ (← second)

theorem bothListed_eq_ok_iff (first second : Except Error (List String)) (keys : List String) :
    bothListed first second = .ok keys ↔
      ∃ front back, first = .ok front ∧ second = .ok back ∧ front ++ back = keys := by
  cases first with
  | error e => simp [bothListed, bind, Except.bind]
  | ok front =>
    cases second with
    | error e => simp [bothListed, bind, Except.bind]
    | ok back => simp [bothListed, bind, Except.bind, pure, Except.pure]

theorem needs_pure (a : α) : Needs (.ok []) fun _ => .ok a where
  sets := fun _ _ _ => ⟨[], rfl, nofun⟩
  lacks := nofun
  reads := fun _ _ _ _ _ => rfl

def valueOf (key : String) (value? : String → Option Json) : Except Error Json :=
  match value? key with
  | some value => .ok value
  | none => .error (.undefinedVariable key)

/-- A variable needs its own key. -/
theorem needs_valueOf (key : String) : Needs (.ok [key]) (valueOf key) where
  sets := by
    intro value? a h
    refine ⟨[key], rfl, ?_⟩
    intro k hk
    rw [List.mem_singleton.mp hk]
    cases hv : value? key with
    | some value => rfl
    | none =>
      rw [valueOf, hv] at h
      cases h
  lacks := by
    rintro keys value? e ⟨⟩ h
    cases hv : value? key with
    | some value =>
      rw [valueOf, hv] at h
      cases h
    | none =>
      rw [valueOf, hv] at h
      exact ⟨key, List.mem_singleton_self key, hv, (Except.error.inj h).symm⟩
  reads := by
    rintro keys value? other? ⟨⟩ h
    rw [valueOf, valueOf, h key (List.mem_singleton_self key)]

/-- A part that follows another adds its keys. -/
theorem needs_bind (first second : Except Error (List String))
    (fill : (String → Option Json) → Except Error α)
    (next : α → (String → Option Json) → Except Error β) (hf : Needs first fill)
    (hn : ∀ a, Needs second (next a)) :
    Needs (bothListed first second) fun value? => fill value? >>= fun a => next a value? where
  sets := by
    intro value? b h
    cases ha : fill value? with
    | error e =>
      rw [ha] at h
      cases h
    | ok a =>
      rw [ha] at h
      obtain ⟨front, hfront, hset⟩ := hf.sets value? a ha
      obtain ⟨back, hback, hset'⟩ := (hn a).sets value? b h
      refine ⟨front ++ back, ?_, ?_⟩
      · exact (bothListed_eq_ok_iff _ _ _).mpr ⟨front, back, hfront, hback, rfl⟩
      · exact List.forall_mem_append.mpr ⟨hset, hset'⟩
  lacks := by
    intro keys value? e hk h
    obtain ⟨front, back, hfront, hback, rfl⟩ := (bothListed_eq_ok_iff _ _ _).mp hk
    cases ha : fill value? with
    | error e' =>
      rw [ha] at h
      cases h
      obtain ⟨key, hm, hx⟩ := hf.lacks front value? e hfront ha
      exact ⟨key, List.mem_append_left back hm, hx⟩
    | ok a =>
      rw [ha] at h
      obtain ⟨key, hm, hx⟩ := (hn a).lacks back value? e hback h
      exact ⟨key, List.mem_append_right front hm, hx⟩
  reads := by
    intro keys value? other? hk h
    obtain ⟨front, back, hfront, hback, rfl⟩ := (bothListed_eq_ok_iff _ _ _).mp hk
    have hsame := hf.reads front value? other? hfront fun key hm =>
      h key (List.mem_append_left back hm)
    have hrest (a : α) := (hn a).reads back value? other? hback fun key hm =>
      h key (List.mem_append_right front hm)
    simp only [hsame, hrest]

/-- What is made of a result needs what the result needs. -/
theorem needs_map (listed : Except Error (List String))
    (fill : (String → Option Json) → Except Error α) (f : α → β) (h : Needs listed fill) :
    Needs listed fun value? => (fill value?).map f where
  sets := by
    intro value? b hb
    cases ha : fill value? with
    | error e =>
      rw [ha] at hb
      cases hb
    | ok a => exact h.sets value? a ha
  lacks := by
    intro keys value? e hk he
    cases ha : fill value? with
    | error e' =>
      rw [ha] at he
      cases he
      exact h.lacks keys value? e hk ha
    | ok a =>
      rw [ha] at he
      cases he
  reads := by
    intro keys value? other? hk hv
    simp only [h.reads keys value? other? hk hv]

/-- Another listing of the same keys serves as well. -/
theorem needs_reorder (listed other : Except Error (List String))
    (fill : (String → Option Json) → Except Error α) (h : Needs listed fill)
    (hto : ∀ keys, listed = .ok keys →
      ∃ keys', other = .ok keys' ∧ ∀ key, key ∈ keys' ↔ key ∈ keys)
    (hof : ∀ keys', other = .ok keys' →
      ∃ keys, listed = .ok keys ∧ ∀ key, key ∈ keys' ↔ key ∈ keys) :
    Needs other fill where
  sets := by
    intro value? a ha
    obtain ⟨keys, hk, hset⟩ := h.sets value? a ha
    obtain ⟨keys', hk', hsame⟩ := hto keys hk
    exact ⟨keys', hk', fun key hm => hset key ((hsame key).mp hm)⟩
  lacks := by
    intro keys' value? e hk' he
    obtain ⟨keys, hk, hsame⟩ := hof keys' hk'
    obtain ⟨key, hm, hx⟩ := h.lacks keys value? e hk he
    exact ⟨key, (hsame key).mpr hm, hx⟩
  reads := by
    intro keys' value? other? hk' hv
    obtain ⟨keys, hk, hsame⟩ := hof keys' hk'
    exact h.reads keys value? other? hk fun key hm => hv key ((hsame key).mpr hm)

end Parts

namespace Template

/-- The text of segments needs the keys of their placeholders. -/
theorem needs_renderSegments (segments : List Segment) :
    Needs (.ok (segments.filterMap Segment.key?)) fun value? => renderSegments value? segments := by
  induction segments with
  | nil => exact needs_pure ""
  | cons segment rest ih =>
    cases segment with
    | literal text => exact needs_map _ _ (text ++ ·) ih
    | placeholder key =>
      have h := needs_bind (.ok [key]) _ (valueOf key)
        (fun value value? => (renderSegments value? rest).map (value.splice ++ ·))
        (needs_valueOf key) fun value => needs_map _ _ (value.splice ++ ·) ih
      have hfill : (fun value? => renderSegments value? (.placeholder key :: rest)) =
          fun value? => valueOf key value? >>= fun value =>
            (renderSegments value? rest).map (value.splice ++ ·) := by
        funext value?
        rw [renderSegments, valueOf]
        cases value? key <;> rfl
      rw [hfill]
      exact h

/-- A text needs the keys that it is listed with; one that cannot be read is never filled in. -/
theorem needs_substitute (source : String) :
    Needs (RequestTemplate.keysOf source) (substitute source) := by
  rw [RequestTemplate.keysOf]
  cases hp : parse source with
  | error e =>
    have hnever (value? : String → Option Json) : substitute source value? = .error e := by
      rw [substitute, hp]
    constructor
    · intro value? text h
      rw [hnever] at h
      cases h
    · rintro keys value? e' ⟨⟩
    · rintro keys value? other? ⟨⟩
  | ok template =>
    have hfill : substitute source = fun value? => renderSegments value? template.segments := by
      funext value?
      rw [substitute, hp]
      rfl
    rw [hfill]
    exact needs_renderSegments template.segments

end Template

namespace RequestTemplate

def headerKeys (headers : List (String × String)) : Except Error (List String) :=
  (headers.mapM fun h => keysOf h.2).map List.flatten

/-- Headers need the keys in their values. -/
theorem needs_resolveHeaders (sources headers : List (String × String)) :
    Needs (headerKeys sources) fun value? => resolveHeaders value? headers sources := by
  induction sources generalizing headers with
  | nil => exact needs_pure headers
  | cons source rest ih =>
    have h := needs_bind (keysOf source.2) _ (Template.substitute source.2)
      (fun text value? => resolveHeaders value? (replaceHeader headers source.1 text) rest)
      (Template.needs_substitute source.2) fun text => ih _
    have hlisted : headerKeys (source :: rest) =
        bothListed (keysOf source.2) (headerKeys rest) := by
      rw [headerKeys, headerKeys, List.mapM_cons]
      cases keysOf source.2 with
      | error e => rfl
      | ok keys => cases rest.mapM fun h => keysOf h.2 <;> rfl
    rw [hlisted]
    exact h

theorem needs_defaultHeaders (request : RequestTemplate) :
    Needs (.ok (request.auth.toList.map tokenKey)) request.defaultHeaders := by
  cases ha : request.auth with
  | none =>
    have hfill : request.defaultHeaders = fun _ => request.defaultHeaders fun _ => none := by
      funext value?
      simp only [defaultHeaders, ha]
    rw [hfill]
    simp only [defaultHeaders, ha]
    exact needs_pure _
  | some role =>
    have h := needs_map _ _
      (fun token : Json => [("Accept", "application/json")] ++
        (if request.body.isSome then [("Content-Type", "application/json")] else []) ++
        [("Authorization", "Bearer " ++ token.splice)]) (needs_valueOf (tokenKey role))
    have hfill : request.defaultHeaders = fun value? => (valueOf (tokenKey role) value?).map
        fun token : Json => [("Accept", "application/json")] ++
          (if request.body.isSome then [("Content-Type", "application/json")] else []) ++
          [("Authorization", "Bearer " ++ token.splice)] := by
      funext value?
      simp only [defaultHeaders, ha, tokenHeader, valueOf]
      cases value? (tokenKey role) <;> rfl
    rw [hfill]
    exact h

def bodyKeys (body : Option BodyTemplate) : Except Error (List String) :=
  match body with
  | some body => keysOf body.source
  | none => .ok []

def resolveBody (value? : String → Option Json) (body : Option BodyTemplate) :
    Except Error (Option String) :=
  match body with
  | some body => (Template.substitute body.source value?).map some
  | none => .ok none

theorem needs_resolveBody (body : Option BodyTemplate) :
    Needs (bodyKeys body) fun value? => resolveBody value? body := by
  cases body with
  | none => exact needs_pure none
  | some body => exact needs_map _ _ some (Template.needs_substitute body.source)

/-- The keys of a request are those of its path, its headers, its token and its body, in this order.
-/
theorem placeholders_eq_ok_iff (request : RequestTemplate) (keys : List String) :
    request.placeholders = .ok keys ↔
      ∃ inPath inHeaders inBody, keysOf request.path = .ok inPath ∧
        headerKeys request.headers = .ok inHeaders ∧ bodyKeys request.body = .ok inBody ∧
        inPath ++ inHeaders ++ request.auth.toList.map tokenKey ++ inBody = keys := by
  have hparts : request.placeholders = keysOf request.path >>= fun inPath =>
      headerKeys request.headers >>= fun inHeaders =>
        bodyKeys request.body >>= fun inBody =>
          .ok (inPath ++ inHeaders ++ request.auth.toList.map tokenKey ++ inBody) := by
    rw [placeholders, headerKeys]
    cases request.headers.mapM fun h => keysOf h.2 <;> cases request.body <;> rfl
  rw [hparts]
  cases keysOf request.path with
  | error e => simp [bind, Except.bind]
  | ok inPath =>
    cases headerKeys request.headers with
    | error e => simp [bind, Except.bind]
    | ok inHeaders =>
      cases bodyKeys request.body with
      | error e => simp [bind, Except.bind]
      | ok inBody => simp [bind, Except.bind]

/-- Filling in goes through the path, the token, the header values and the body. -/
theorem resolve_eq (request : RequestTemplate) (value? : String → Option Json) :
    request.resolve value? = Template.substitute request.path value? >>= fun path =>
      request.defaultHeaders value? >>= fun defaults =>
        resolveHeaders value? defaults request.headers >>= fun headers =>
          (resolveBody value? request.body).map fun body =>
            ⟨request.method, path, headers, body⟩ := by
  rw [resolve]
  cases request.body with
  | none => rfl
  | some body =>
    dsimp only [resolveBody]
    cases Template.substitute body.source value? <;> rfl

/-- A request needs the keys that are listed for it. -/
theorem needs_resolve (request : RequestTemplate) : Needs request.placeholders request.resolve := by
  have hparts : Needs (bothListed (keysOf request.path)
      (bothListed (.ok (request.auth.toList.map tokenKey))
        (bothListed (headerKeys request.headers) (bodyKeys request.body)))) request.resolve := by
    simp only [funext request.resolve_eq]
    apply needs_bind _ _ _ _ (Template.needs_substitute request.path)
    intro path
    apply needs_bind _ _ _ _ (needs_defaultHeaders request)
    intro defaults
    apply needs_bind _ _ _ _ (needs_resolveHeaders request.headers defaults)
    intro headers
    exact needs_map _ _ _ (needs_resolveBody request.body)
  -- Filling in comes to the token before the header values, the listing after them.
  have hsame (inPath inHeaders inToken inBody : List String) (key : String) :
      key ∈ inPath ++ inHeaders ++ inToken ++ inBody ↔
        key ∈ inPath ++ (inToken ++ (inHeaders ++ inBody)) := by
    simp only [List.mem_append]
    tauto
  refine needs_reorder _ _ _ hparts ?_ ?_
  · intro keys hk
    simp only [bothListed_eq_ok_iff] at hk
    obtain ⟨inPath, _, hpath, ⟨inToken, _, ⟨⟩, ⟨inHeaders, inBody, hh, hb, rfl⟩, rfl⟩, rfl⟩ := hk
    refine ⟨_, ?_, hsame inPath inHeaders _ inBody⟩
    exact (request.placeholders_eq_ok_iff _).mpr ⟨inPath, inHeaders, inBody, hpath, hh, hb, rfl⟩
  · intro keys hk
    obtain ⟨inPath, inHeaders, inBody, hpath, hh, hb, rfl⟩ :=
      (request.placeholders_eq_ok_iff keys).mp hk
    refine ⟨_, ?_, hsame inPath inHeaders _ inBody⟩
    simp only [bothListed_eq_ok_iff]
    exact ⟨inPath, _, hpath, ⟨_, _, rfl, ⟨inHeaders, inBody, hh, hb, rfl⟩, rfl⟩, rfl⟩

/-- A request can be filled in exactly if its keys can be listed and all of them are set; a listed
key that is unset is to blame if it cannot; and only the values of the listed keys matter. -/
theorem resolve_agrees_with_placeholders (request : RequestTemplate)
    (value? : String → Option Json) :
    ((∃ resolved, request.resolve value? = .ok resolved) ↔
      ∃ keys, request.placeholders = .ok keys ∧ ∀ key ∈ keys, (value? key).isSome = true) ∧
    (∀ keys e, request.placeholders = .ok keys → request.resolve value? = .error e →
      ∃ key ∈ keys, value? key = none ∧ e = .undefinedVariable key) ∧
    ∀ keys other?, request.placeholders = .ok keys → (∀ key ∈ keys, value? key = other? key) →
      request.resolve value? = request.resolve other? := by
  have needs := request.needs_resolve
  refine ⟨⟨?_, ?_⟩, ?_, ?_⟩
  · rintro ⟨resolved, h⟩
    exact needs.sets value? resolved h
  · rintro ⟨keys, hk, hset⟩
    exact needs.fills value? keys hk hset
  · intro keys e hk he
    exact needs.lacks keys value? e hk he
  · intro keys other? hk hv
    exact needs.reads keys value? other? hk hv

def eventUpdate : RequestTemplate where
  method := .patch
  path := "/events/\x7b\x7bevent\x7d\x7d"
  headers := [("X-Trace", "\x7b\x7btrace\x7d\x7d")]
  auth := some "user"
  body := some (.text "\x7b\x7b title \x7d\x7d")

def eventKnown (key : String) : Option Json :=
  if key = "event" then some (.str "7") else none

/-- Where only the event is set, a listed key is to blame, and the seed of another request makes no
difference. -/
theorem resolve_agrees_with_placeholders_eventUpdate :
    eventUpdate.placeholders = .ok ["event", "trace", "user_token", "title"] ∧
    (¬ ∃ resolved, eventUpdate.resolve eventKnown = .ok resolved) ∧
    (∃ key ∈ ["event", "trace", "user_token", "title"], eventKnown key = none ∧
      Error.undefinedVariable "user_token" = .undefinedVariable key) ∧
    eventUpdate.resolve eventKnown =
      eventUpdate.resolve fun key => if key = "seed" then some (.str "s") else eventKnown key := by
  have hlisted : eventUpdate.placeholders = .ok ["event", "trace", "user_token", "title"] := by
    decide +kernel
  have hfails : eventUpdate.resolve eventKnown = .error (.undefinedVariable "user_token") := by
    decide +kernel
  have hagree := resolve_agrees_with_placeholders eventUpdate eventKnown
  refine ⟨hlisted, ?_, hagree.2.1 _ _ hlisted hfails, hagree.2.2 _ _ hlisted ?_⟩
  · rw [hagree.1]
    rintro ⟨keys, hk, hset⟩
    rw [hlisted] at hk
    cases hk
    exact absurd (hset "trace" (by decide)) (by decide)
  · intro key hm
    rw [if_neg]
    rintro rfl
    exact absurd hm (by decide)

end RequestTemplate
end ApiTrial
