import ApiTrial.Proofs.RequestKeys
import ApiTrial.Proofs.RoutineOutcome
import ApiTrial.Proofs.StoreHistory

/-! Which value of a header is sent. The headers of a template are written one after the other over
the defaults, and each takes out what has its name before it is put at the end. So no name is sent
twice, and of several spellings of one name the last in the order of the names is sent. -/
namespace ApiTrial
namespace Text

theorem sameIgnoringCase_comm (a b : String) : sameIgnoringCase a b = sameIgnoringCase b a := by
  rw [sameIgnoringCase, sameIgnoringCase, Bool.eq_iff_iff, beq_iff_eq, beq_iff_eq, eq_comm]

/-- What one name is told from, any spelling of it is told from. -/
theorem sameIgnoringCase_congr (a b c : String) (h : sameIgnoringCase a b = true) :
    sameIgnoringCase a c = sameIgnoringCase b c := by
  rw [sameIgnoringCase_iff] at h
  rw [sameIgnoringCase, sameIgnoringCase, h]

end Text

namespace RequestTemplate
open Text

def valueIn? (headers : List (String × String)) (name : String) : Option String :=
  (headers.find? fun header => sameIgnoringCase header.1 name).map (·.2)

def Unrepeated (headers : List (String × String)) : Prop :=
  headers.Pairwise fun a b => sameIgnoringCase a.1 b.1 = false

/-- The header of a template that is sent under a name: of those that have the name, up to case, the
last in the order of the names. -/
structure Overrides (request : RequestTemplate) (name own source : String) : Prop where
  mem : (own, source) ∈ request.headers
  named : sameIgnoringCase own name = true
  greatest : ∀ other ∈ request.headers, sameIgnoringCase other.1 name = true → other.1 ≤ own

def bearer? (request : RequestTemplate) (value? : String → Option Json) : Option String :=
  request.auth.bind fun role => (value? (tokenKey role)).map fun token => "Bearer " ++ token.splice

def defaultHeader? (request : RequestTemplate) (value? : String → Option Json) (name : String) :
    Option String :=
  if sameIgnoringCase "Accept" name then some "application/json"
  else if sameIgnoringCase "Content-Type" name then
    if request.body.isSome then some "application/json" else none
  else if sameIgnoringCase "Authorization" name then request.bearer? value? else none

section Replacing
variable (headers : List (String × String))

theorem unrepeated_replaceHeader (name value : String) (h : Unrepeated headers) :
    Unrepeated (replaceHeader headers name value) := by
  rw [Unrepeated, replaceHeader, List.pairwise_append]
  refine ⟨List.Pairwise.filter _ h, List.pairwise_singleton _ _, ?_⟩
  intro kept hkept added hadded
  rw [List.mem_singleton.mp hadded]
  simpa using (List.mem_filter.mp hkept).2

/-- A header that is written is read under its own name and does not touch other names. -/
theorem valueIn?_replaceHeader (own value name : String) :
    valueIn? (replaceHeader headers own value) name =
      if sameIgnoringCase own name then some value else valueIn? headers name := by
  have hkept (header : String × String) :
      decide ((!sameIgnoringCase header.1 own) = true ∧ sameIgnoringCase header.1 name = true) =
        (!sameIgnoringCase own name && sameIgnoringCase header.1 name) := by
    cases hn : sameIgnoringCase header.1 name with
    | false => simp
    | true =>
      rw [sameIgnoringCase_congr header.1 name own hn, sameIgnoringCase_comm name own]
      simp
  rw [valueIn?, replaceHeader, List.find?_append, List.find?_filter]
  simp only [hkept]
  cases hn : sameIgnoringCase own name with
  | true =>
    have hnone : (headers.find? fun header =>
        (!true && sameIgnoringCase header.1 name)) = none :=
      List.find?_eq_none.mpr fun _ _ => Bool.false_ne_true
    rw [hnone]
    simp [hn]
  | false => simp [hn, valueIn?]

variable (value? : String → Option Json) (sources result : List (String × String))
  (h : resolveHeaders value? headers sources = .ok result)
include h

theorem unrepeated_resolveHeaders (hu : Unrepeated headers) : Unrepeated result := by
  induction sources generalizing headers with
  | nil =>
    cases h
    exact hu
  | cons source rest ih =>
    obtain ⟨value, -, h⟩ := ok_of_bind_eq_ok _ _ _ h
    exact ih _ h (unrepeated_replaceHeader headers source.1 value hu)

/-- The last header that has a name gives its value, and without one the value stays. -/
theorem valueIn?_resolveHeaders (name : String) :
    (∃ front own source back text, sources = front ++ (own, source) :: back ∧
      sameIgnoringCase own name = true ∧
      (∀ later ∈ back, sameIgnoringCase later.1 name = false) ∧
      Template.substitute source value? = .ok text ∧ valueIn? result name = some text) ∨
    ((∀ header ∈ sources, sameIgnoringCase header.1 name = false) ∧
      valueIn? result name = valueIn? headers name) := by
  induction sources generalizing headers with
  | nil =>
    cases h
    exact Or.inr ⟨nofun, rfl⟩
  | cons first rest ih =>
    obtain ⟨own, source⟩ := first
    obtain ⟨text, htext, h⟩ := ok_of_bind_eq_ok _ _ _ h
    rcases ih _ h with ⟨front, last, lastSource, back, lastText, he, hl⟩ | ⟨hrest, hvalue⟩
    · exact Or.inl ⟨(own, source) :: front, last, lastSource, back, lastText, by rw [he]; rfl, hl⟩
    · rw [valueIn?_replaceHeader] at hvalue
      cases hn : sameIgnoringCase own name with
      | true =>
        rw [hn, if_pos rfl] at hvalue
        exact Or.inl ⟨[], own, source, rest, text, rfl, hn, hrest, htext, hvalue⟩
      | false =>
        rw [hn, if_neg Bool.false_ne_true] at hvalue
        exact Or.inr ⟨List.forall_mem_cons.mpr ⟨hn, hrest⟩, hvalue⟩

end Replacing

section Defaults
variable (request : RequestTemplate) (value? : String → Option Json)
  (defaults : List (String × String)) (h : request.defaultHeaders value? = .ok defaults)
include h

/-- The headers that are sent by default. A role without a token sends nothing at all. -/
theorem defaultHeaders_eq :
    (request.bearer? value?).isSome = request.auth.isSome ∧
    defaults = ("Accept", "application/json") ::
      ((if request.body.isSome then [("Content-Type", "application/json")] else []) ++
        (request.bearer? value?).toList.map fun bearer => ("Authorization", bearer)) := by
  rw [defaultHeaders] at h
  rw [bearer?]
  cases ha : request.auth with
  | none =>
    rw [ha] at h
    cases h
    exact ⟨rfl, rfl⟩
  | some role =>
    rw [ha] at h
    simp only [tokenHeader] at h
    rw [Option.bind_some]
    cases ht : value? (tokenKey role) with
    | none =>
      rw [ht] at h
      cases h
    | some token =>
      rw [ht] at h
      cases h
      exact ⟨rfl, rfl⟩

theorem unrepeated_defaultHeaders : Unrepeated defaults := by
  have haccept : sameIgnoringCase "Accept" "Content-Type" = false := by decide +kernel
  have htoken : sameIgnoringCase "Accept" "Authorization" = false := by decide +kernel
  have hcontent : sameIgnoringCase "Content-Type" "Authorization" = false := by decide +kernel
  rw [(defaultHeaders_eq request value? defaults h).2]
  cases request.body <;> cases request.bearer? value? <;>
    simp [Unrepeated, haccept, htoken, hcontent]

/-- Under each name the defaults have the value that is due by default, if there is one. -/
theorem valueIn?_defaultHeaders (name : String) :
    valueIn? defaults name = request.defaultHeader? value? name := by
  have htoken (hc : sameIgnoringCase "Content-Type" name = true) :
      sameIgnoringCase "Authorization" name = false := by
    rw [sameIgnoringCase_comm, ← sameIgnoringCase_congr "Content-Type" name _ hc]
    decide +kernel
  rw [(defaultHeaders_eq request value? defaults h).2, valueIn?, defaultHeader?, List.find?_cons]
  cases sameIgnoringCase "Accept" name with
  | true => rfl
  | false =>
    cases hc : sameIgnoringCase "Content-Type" name with
    | true =>
      have ht := htoken hc
      cases request.body <;> cases request.bearer? value? <;> simp [hc, ht]
    | false =>
      cases ht : sameIgnoringCase "Authorization" name <;> cases request.body <;>
        cases request.bearer? value? <;> simp [hc, ht]

end Defaults

/-- A request that is filled in has no header twice, up to case. Under a name it sends the value of
the last header of the template, in the order of the names, that has the name up to case. If there
is none it sends what is sent by default: JSON is accepted, the content is JSON if there is a body,
and a token is sent if the request is for a role. -/
theorem resolved_headers_precedence (request : RequestTemplate) (value? : String → Option Json)
    (resolved : ResolvedRequest) (ho : request.headers.Ordered)
    (hr : request.resolve value? = .ok resolved) :
    (resolved.headers.Pairwise fun a b => sameIgnoringCase a.1 b.1 = false) ∧
    (request.bearer? value?).isSome = request.auth.isSome ∧
    ∀ name,
      (∃ own source text, request.Overrides name own source ∧
        Template.substitute source value? = .ok text ∧ resolved.header? name = some text) ∨
      ((∀ header ∈ request.headers, sameIgnoringCase header.1 name = false) ∧
        resolved.header? name = request.defaultHeader? value? name) := by
  rw [resolve_eq] at hr
  obtain ⟨path, -, hr⟩ := ok_of_bind_eq_ok _ _ _ hr
  obtain ⟨defaults, hdefaults, hr⟩ := ok_of_bind_eq_ok _ _ _ hr
  obtain ⟨headers, hheaders, hr⟩ := ok_of_bind_eq_ok _ _ _ hr
  have hheaders' : resolved.headers = headers := by
    cases hb : resolveBody value? request.body with
    | error e =>
      rw [hb] at hr
      cases hr
    | ok body =>
      rw [hb] at hr
      cases hr
      rfl
  have hunrepeated := unrepeated_defaultHeaders request value? defaults hdefaults
  have hbearer := (defaultHeaders_eq request value? defaults hdefaults).1
  rw [hheaders']
  refine ⟨unrepeated_resolveHeaders defaults value? _ headers hheaders hunrepeated, hbearer, ?_⟩
  intro name
  have hread : resolved.header? name = valueIn? headers name := by
    rw [ResolvedRequest.header?, hheaders']
    rfl
  rw [hread]
  rcases valueIn?_resolveHeaders defaults value? _ headers hheaders name with
    ⟨front, own, source, back, text, he, hn, hback, htext, hvalue⟩ | ⟨hnone, hvalue⟩
  · have hmem : (own, source) ∈ request.headers := by
      rw [he]
      exact List.mem_append_right _ List.mem_cons_self
    refine Or.inl ⟨own, source, text, ⟨hmem, hn, ?_⟩, htext, hvalue⟩
    intro other hother hsame
    rw [he, List.mem_append, List.mem_cons] at hother
    rw [Table.Ordered, he, List.pairwise_append] at ho
    rcases hother with hfront | rfl | hlater
    · exact le_of_lt (ho.2.2 other hfront (own, source) List.mem_cons_self)
    · exact le_rfl
    · rw [hback other hlater] at hsame
      cases hsame
  · rw [valueIn?_defaultHeaders request value? defaults hdefaults] at hvalue
    exact Or.inr ⟨hnone, hvalue⟩

def spelledTwice : RequestTemplate where
  method := .post
  path := "/export"
  headers := [("ACCEPT", "text/html"), ("X-Trace", "1"), ("accept", "text/\x7b\x7bkind\x7d\x7d")]
  auth := some "user"
  body := some (.text "[]")

def exportKnown (key : String) : Option Json :=
  if key = "kind" then some (.str "csv") else if key = "user_token" then some (.str "t") else none

/-- The spelling in small letters is the last one, and the other defaults are sent as they are. -/
theorem resolved_headers_precedence_spelledTwice :
    ∃ resolved, spelledTwice.headers.Ordered ∧
      spelledTwice.resolve exportKnown = .ok resolved ∧
      (resolved.headers.Pairwise fun a b => sameIgnoringCase a.1 b.1 = false) ∧
      (∃ own source text, spelledTwice.Overrides "Accept" own source ∧
        Template.substitute source exportKnown = .ok text ∧ some "text/csv" = some text) ∧
      resolved.header? "AUTHORIZATION" = some "Bearer t" := by
  have ho : spelledTwice.headers.Ordered := by
    unfold Table.Ordered
    decide
  have hr : spelledTwice.resolve exportKnown = .ok ⟨.post, "/export",
      [("Content-Type", "application/json"), ("Authorization", "Bearer t"), ("X-Trace", "1"),
        ("accept", "text/csv")], some "[]"⟩ := by decide +kernel
  obtain ⟨hunrepeated, -, hvalues⟩ := resolved_headers_precedence spelledTwice exportKnown _ ho hr
  refine ⟨_, ho, hr, hunrepeated, ?_, ?_⟩
  · rcases hvalues "Accept" with hown | ⟨hnone, -⟩
    · exact hown
    · have haccept := hnone ("ACCEPT", "text/html") List.mem_cons_self
      exact absurd haccept (by decide +kernel)
  · rcases hvalues "AUTHORIZATION" with ⟨own, source, text, hown, -⟩ | ⟨-, hvalue⟩
    · have hnone : ∀ header ∈ spelledTwice.headers,
          sameIgnoringCase header.1 "AUTHORIZATION" = false := by decide +kernel
      have hnamed := hown.named
      rw [hnone (own, source) hown.mem] at hnamed
      cases hnamed
    · rw [hvalue]
      decide +kernel

end RequestTemplate

end ApiTrial
