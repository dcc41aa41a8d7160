import ApiTrial.Proofs.AssertionTarget
import ApiTrial.Proofs.PointerReach
import ApiTrial.Proofs.TemplateFilled

/-! Which assertions can fail. A check fails if one of its parts does, so it is enough to know of
each part by itself whether some response or some variables are against it. A part that sets nothing
has nothing against it, although an assertion with such a part counts as one that checks something.
-/
namespace ApiTrial

def Fails (check : Except String Unit) : Prop := check ≠ .ok ()

section Checks

theorem fails_require (holds : Bool) (complaint : String) :
    Fails (require holds complaint) ↔ holds = false := by
  rw [Fails, ne_eq, require_eq_ok_iff, Bool.not_eq_true]

theorem fails_error (complaint : String) : Fails (.error complaint) := nofun

theorem fails_bind (first second : Except String Unit) :
    Fails (first >>= fun _ => second) ↔ Fails first ∨ Fails second := by
  cases first with
  | ok u => simp [Fails, bind, Except.bind]
  | error complaint => simp [Fails, bind, Except.bind]

theorem fails_whenSet {α : Type} (part : Option α) (check : α → Except String Unit) :
    Fails (whenSet part check) ↔ ∃ a, part = some a ∧ Fails (check a) := by
  cases part with
  | none => simp [Fails, whenSet]
  | some a => simp [whenSet]

/-- A check that needs a text first fails if the text is not there. -/
theorem fails_of_text {α : Type} (text : Except String α) (check : α → Except String Unit)
    (h : ∀ a, text = .ok a → Fails (check a)) : Fails (text >>= check) := by
  cases text with
  | ok a => exact h a rfl
  | error complaint => exact fails_error complaint

end Checks

def unset : String → Option Json := fun _ => none

/-- Without variables a text stands for nothing but itself. -/
theorem Template.eq_of_substitute_unset (source text : String)
    (h : substitute source unset = .ok text) : text = source := by
  obtain ⟨keys, hk, -⟩ := (needs_substitute source).sets unset text h
  have hfilled := fills_of_substitute (fun _ _ => False) unset source text keys hk h nofun
  have hsame (chars filled : List Char) (h : Fills (fun _ _ => False) chars filled) :
      filled = chars := by
    induction h with
    | nil => rfl
    | char c rest filled hc hrest ih => rw [ih]
    | hole inside rest after filled value hclose hkey hvalue hrest ih => exact hvalue.elim
  exact String.toList_injective (hsame _ _ hfilled)

theorem Expected.eq_of_text_unset (source wanted : String)
    (h : Expected.text unset source = .ok wanted) : wanted = source := by
  rw [Expected.text] at h
  cases hs : Template.substitute source unset with
  | error e =>
    rw [hs] at h
    cases h
  | ok text =>
    rw [hs] at h
    cases h
    exact Template.eq_of_substitute_unset source wanted hs

/-- Filling in makes null of null only. -/
theorem Expected.isNull_of_resolve (value? : String → Option Json) (value : Json)
    (wanted : Expected) (h : Expected.resolve value? value = .ok wanted) :
    wanted.value.isNull = value.isNull := by
  cases value with
  | str source =>
    rw [Expected.resolve] at h
    split at h
    · cases ht : Expected.text value? source with
      | error complaint =>
        rw [ht] at h
        cases h
      | ok text =>
        rw [ht] at h
        cases h
        rfl
    · cases h
      rfl
  | _ =>
    cases h
    rfl

namespace JsonExpectation

/-- Something can be against the expectation: it wants a value to be there, or one that is not null,
or a text that is not empty; or it wants nothing to be there, or null, where a value can be. -/
def Refutable (expected : JsonExpectation) : Prop :=
  expected.exists? = some true ∨ (∃ value, expected.equals = some value ∧ value.isNull = false) ∨
  (∃ source, expected.contains = some source ∧ source ≠ "") ∨
  Json.Reachable expected.pointer ∧ (expected.exists? = some false ∨ expected.equals = some .null)

theorem fails_check (expected : JsonExpectation) (actual : Option Json)
    (value? : String → Option Json) :
    Fails (expected.check actual value?) ↔
      (∃ wanted, expected.exists? = some wanted ∧ Fails (expected.checkExists actual wanted)) ∨
      (∃ value, expected.equals = some value ∧ Fails (expected.checkEquals actual value? value)) ∨
      ∃ source, expected.contains = some source ∧ Fails (checkContains actual value? source) := by
  rw [check, fails_bind, fails_bind, fails_whenSet, fails_whenSet, fails_whenSet]

theorem fails_checkEquals_of_none (expected : JsonExpectation) (value : Json)
    (h : value.isNull = false) : Fails (expected.checkEquals none unset value) := by
  rw [checkEquals]
  apply fails_of_text
  intro wanted hw
  rw [fails_require, Expected.isNull_of_resolve unset value wanted hw, h]

theorem fails_checkContains_of_none (source : String) (h : source ≠ "") :
    Fails (checkContains none unset source) := by
  rw [checkContains]
  apply fails_of_text
  intro needle hn
  rw [Expected.eq_of_text_unset source needle hn, fails_require]
  have hne : source.toList ≠ [] := fun he => h (String.toList_injective he)
  exact List.isEmpty_eq_false_iff.mpr hne

/-- Where a body with the value `true` at the pointer is against it, there is such a body. -/
theorem refuted_of_reachable (expected : JsonExpectation) (hr : Json.Reachable expected.pointer)
    (h : expected.exists? = some false ∨ expected.equals = some .null) :
    ∃ body, ∀ response : Response, response.body = body →
      Fails (expected.check (response.pointer? expected.pointer) unset) := by
  obtain ⟨body, hbody⟩ := Response.exists_body expected.pointer (.bool true) hr fun depth =>
    .bool depth true
  refine ⟨body, ?_⟩
  intro response hb
  rw [hbody response hb, fails_check]
  rcases h with h | h
  · exact Or.inl ⟨false, h, (fails_require _ _).mpr rfl⟩
  · exact Or.inr (Or.inl ⟨.null, h, (fails_require _ _).mpr rfl⟩)

/-- There is a body against the expectation. -/
theorem exists_refuting (expected : JsonExpectation) (h : expected.Refutable) :
    ∃ body, ∀ response : Response, response.body = body →
      Fails (expected.check (response.pointer? expected.pointer) unset) := by
  have hempty (hf : Fails (expected.check none unset)) : ∃ body, ∀ response : Response,
      response.body = body → Fails (expected.check (response.pointer? expected.pointer) unset) := by
    refine ⟨[], ?_⟩
    intro response hb
    rw [response.pointer?_of_empty expected.pointer hb]
    exact hf
  rcases h with h | ⟨value, hv, hnull⟩ | ⟨source, hs, hne⟩ | ⟨hr, h⟩
  · exact hempty ((fails_check _ _ _).mpr (Or.inl ⟨true, h, (fails_require _ _).mpr rfl⟩))
  · have hf := fails_checkEquals_of_none expected value hnull
    exact hempty ((fails_check _ _ _).mpr (Or.inr (Or.inl ⟨value, hv, hf⟩)))
  · have hf := fails_checkContains_of_none source hne
    exact hempty ((fails_check _ _ _).mpr (Or.inr (Or.inr ⟨source, hs, hf⟩)))
  · exact refuted_of_reachable expected hr h

/-- What a response is against can be refuted. -/
theorem refutable_of_fails (expected : JsonExpectation) (response : Response)
    (value? : String → Option Json)
    (h : Fails (expected.check (response.pointer? expected.pointer) value?)) :
    expected.Refutable := by
  have hreach (actual : Json) (ha : response.pointer? expected.pointer = some actual) :
      Json.Reachable expected.pointer := by
    by_contra hn
    rw [response.pointer?_eq_none expected.pointer hn] at ha
    cases ha
  rcases (fails_check _ _ _).mp h with ⟨wanted, hw, hf⟩ | ⟨value, hv, hf⟩ | ⟨source, hs, hf⟩
  · cases wanted with
    | true => exact Or.inl hw
    | false =>
      rw [checkExists, fails_require] at hf
      cases ha : response.pointer? expected.pointer with
      | none =>
        rw [ha] at hf
        cases hf
      | some actual => exact Or.inr (Or.inr (Or.inr ⟨hreach actual ha, Or.inl hw⟩))
  · cases value with
    | null =>
      cases ha : response.pointer? expected.pointer with
      | none =>
        rw [ha] at hf
        exact absurd rfl hf
      | some actual => exact Or.inr (Or.inr (Or.inr ⟨hreach actual ha, Or.inr hv⟩))
    | _ => exact Or.inr (Or.inl ⟨_, hv, rfl⟩)
  · refine Or.inr (Or.inr (Or.inl ⟨source, hs, ?_⟩))
    rintro rfl
    have htext : Expected.text value? "" = .ok "" := rfl
    apply hf
    rw [checkContains, htext]
    exact (require_eq_ok_iff _ _).mpr (Text.occursIn_nil _)

end JsonExpectation

section Headers

theorem isAlphanum_eq (c : Char) : c.isAlphanum = (c.isUpper || c.isLower || c.isDigit) := rfl

theorem isHeaderNameChar_toLower (c : Char) : isHeaderNameChar c.toLower = isHeaderNameChar c := by
  by_cases h : c.val ≥ 'A'.val ∧ c.val ≤ 'Z'.val
  · have hupper : c.isUpper = true := decide_eq_true h
    have hleast : 65 ≤ c.val.toNat := h.1
    have hmost : c.val.toNat ≤ 90 := h.2
    have hvalue : c.toLower.val.toNat = c.val.toNat + 32 := by
      delta Char.toLower
      rw [dif_pos h]
      show (c.val + 32).toNat = _
      rw [UInt32.toNat_add]
      show (c.val.toNat + 32) % 4294967296 = _
      omega
    have hlower : c.toLower.isLower = true := by
      refine Bool.and_eq_true_iff.mpr ⟨decide_eq_true ?_, decide_eq_true ?_⟩
      · show 97 ≤ c.toLower.val.toNat
        omega
      · show c.toLower.val.toNat ≤ 122
        omega
    rw [isHeaderNameChar, isHeaderNameChar, isAlphanum_eq, isAlphanum_eq, hupper, hlower,
      Bool.or_true, Bool.true_or]
    rfl
  · delta Char.toLower
    rw [dif_neg h]

theorem isHeaderName_lowerAscii (name : String) :
    isHeaderName (Text.lowerAscii name) = isHeaderName name := by
  have hlist (name : String) : isHeaderName name =
      (!name.toList.isEmpty && name.toList.all isHeaderNameChar) := by
    have hempty : name.isEmpty = name.toList.isEmpty := by
      rw [Bool.eq_iff_iff, String.isEmpty_iff, List.isEmpty_iff, String.toList_eq_nil_iff]
    rw [isHeaderName, hempty]
  have hall : ((Text.lowerAscii name).toList.all isHeaderNameChar) =
      name.toList.all isHeaderNameChar := by
    rw [Text.lowerAscii, String.toList_ofList, List.all_map]
    exact congrArg (name.toList.all ·) (funext isHeaderNameChar_toLower)
  rw [hlist, hlist, hall, Text.lowerAscii, String.toList_ofList, List.isEmpty_map]

structure Response.Receivable (response : Response) : Prop where
  least : 100 ≤ response.status
  most : response.status < 1000
  named : ∀ header ∈ response.headers, isHeaderName header.1 = true
  sound : ∀ header ∈ response.headers, ∀ b ∈ header.2, b = 9 ∨ 32 ≤ b ∧ b ≠ 127

theorem Response.isHeaderName_of_header? (response : Response) (hr : response.Receivable)
    (name : String) (h : (response.header? name).isSome = true) : isHeaderName name = true := by
  obtain ⟨text, htext⟩ := Option.isSome_iff_exists.mp h
  obtain ⟨bytes, hbytes, -⟩ := Option.bind_eq_some_iff.mp htext
  obtain ⟨header, hfound, -⟩ := Option.map_eq_some_iff.mp hbytes
  have hsame := List.find?_some hfound
  rw [Text.sameIgnoringCase_iff] at hsame
  rw [← isHeaderName_lowerAscii, ← hsame, isHeaderName_lowerAscii]
  exact hr.named header (List.mem_of_find?_eq_some hfound)

end Headers

namespace HeaderExpectation

/-- Something can be against the expectation: it wants the header, with whatever value, or it wants
a header not to be there that there can be. -/
def Refutable (expected : HeaderExpectation) : Prop :=
  expected.present = some true ∨ expected.equals.isSome = true ∨
  isHeaderName expected.name = true ∧ expected.present = some false

theorem fails_check (expected : HeaderExpectation) (actual : Option String)
    (value? : String → Option Json) :
    Fails (expected.check actual value?) ↔
      (∃ wanted, expected.present = some wanted ∧ Fails (expected.checkPresent actual wanted)) ∨
      ∃ source, expected.equals = some source ∧
        Fails (expected.checkEquals actual value? source) := by
  rw [check, fails_bind, fails_whenSet, fails_whenSet]

/-- There are headers against the expectation. -/
theorem exists_refuting (expected : HeaderExpectation) (h : expected.Refutable) :
    ∃ headers : List (String × List UInt8),
      (∀ header ∈ headers, isHeaderName header.1 = true ∧ header.2 = []) ∧
      ∀ response : Response, response.headers = headers →
        Fails (expected.check (response.header? expected.name) unset) := by
  have hbare (hf : Fails (expected.check none unset)) : ∃ headers : List (String × List UInt8),
      (∀ header ∈ headers, isHeaderName header.1 = true ∧ header.2 = []) ∧
      ∀ response : Response, response.headers = headers →
        Fails (expected.check (response.header? expected.name) unset) := by
    refine ⟨[], nofun, ?_⟩
    intro response hh
    rw [Response.header?, Response.headerBytes?, hh]
    exact hf
  rcases h with h | h | ⟨hn, h⟩
  · exact hbare ((fails_check _ _ _).mpr (Or.inl ⟨true, h, (fails_require _ _).mpr rfl⟩))
  · obtain ⟨source, hs⟩ := Option.isSome_iff_exists.mp h
    have hf : Fails (expected.checkEquals none unset source) := by
      rw [checkEquals]
      apply fails_of_text
      intro wanted _
      exact (fails_require _ _).mpr rfl
    exact hbare ((fails_check _ _ _).mpr (Or.inr ⟨source, hs, hf⟩))
  · refine ⟨[(expected.name, [])], by simpa using hn, ?_⟩
    intro response hh
    have hthere : response.header? expected.name = some "" := by
      simp [Response.header?, Response.headerBytes?, hh, Text.sameIgnoringCase,
        Response.headerText?]
    rw [hthere, fails_check]
    exact Or.inl ⟨false, h, (fails_require _ _).mpr rfl⟩

/-- What a response that can arrive is against can be refuted. -/
theorem refutable_of_fails (expected : HeaderExpectation) (response : Response)
    (hr : response.Receivable) (value? : String → Option Json)
    (h : Fails (expected.check (response.header? expected.name) value?)) :
    expected.Refutable := by
  rcases (fails_check _ _ _).mp h with ⟨wanted, hw, hf⟩ | ⟨source, hs, -⟩
  · cases wanted with
    | true => exact Or.inl hw
    | false =>
      rw [checkPresent, fails_require] at hf
      have hthere : (response.header? expected.name).isSome = true := by simpa using hf
      exact Or.inr (Or.inr ⟨response.isHeaderName_of_header? hr expected.name hthere, hw⟩)
  · exact Or.inr (Or.inl (by rw [hs]; rfl))

end HeaderExpectation

namespace VariableExpectation

/-- Something can be against the expectation: it says something of the variable. -/
def Refutable (expected : VariableExpectation) : Prop :=
  expected.present.isSome = true ∨ expected.equals.isSome = true

theorem fails_check (expected : VariableExpectation) (value? : String → Option Json) :
    Fails (expected.check value?) ↔
      (∃ wanted, expected.present = some wanted ∧ Fails (expected.checkPresent value? wanted)) ∨
      ∃ value, expected.equals = some value ∧ Fails (expected.checkEquals value? value) := by
  rw [check, fails_bind, fails_whenSet, fails_whenSet]

/-- There are variables against the expectation: none, or the one that it wants not to be set. -/
theorem exists_refuting (expected : VariableExpectation) (h : expected.Refutable) :
    ∃ store : Store, Fails (expected.check (store.lookup 0)) := by
  have hnone : Store.lookup [⟨Store.rootPath, none, []⟩] 0 = unset := rfl
  rcases h with h | h
  · obtain ⟨wanted, hw⟩ := Option.isSome_iff_exists.mp h
    cases wanted with
    | true =>
      refine ⟨[⟨Store.rootPath, none, []⟩], ?_⟩
      rw [hnone, fails_check]
      exact Or.inl ⟨true, hw, (fails_require _ _).mpr rfl⟩
    | false =>
      refine ⟨[⟨Store.rootPath, none, [(expected.key, some .null)]⟩], ?_⟩
      rw [fails_check]
      refine Or.inl ⟨false, hw, (fails_require _ _).mpr ?_⟩
      simp [Store.lookup, Table.get?]
  · obtain ⟨value, hv⟩ := Option.isSome_iff_exists.mp h
    refine ⟨[⟨Store.rootPath, none, []⟩], ?_⟩
    rw [hnone, fails_check]
    refine Or.inr ⟨value, hv, ?_⟩
    rw [checkEquals]
    apply fails_of_text
    intro wanted _
    exact fails_error _

theorem refutable_of_fails (expected : VariableExpectation) (value? : String → Option Json)
    (h : Fails (expected.check value?)) : expected.Refutable := by
  rcases (fails_check _ _).mp h with ⟨wanted, hw, -⟩ | ⟨value, hv, -⟩
  · exact Or.inl (by rw [hw]; rfl)
  · exact Or.inr (by rw [hv]; rfl)

end VariableExpectation

namespace Assertion

/-- Something can be against the assertion: one of its parts can be refuted. -/
def Refutable (a : Assertion) : Prop :=
  a.status.isSome = true ∨ a.statusClass.isSome = true ∨ a.bodyEmpty.isSome = true ∨
  (∃ expected, a.json = some expected ∧ expected.Refutable) ∨
  (∃ expected, a.header = some expected ∧ expected.Refutable) ∨
  ∃ expected, a.binding = some expected ∧ expected.Refutable

theorem fails_checkResponse (a : Assertion) (value? : String → Option Json) (response : Response) :
    Fails (a.checkResponse value? response) ↔
      (∃ status, a.status = some status ∧ Fails (checkStatus response status)) ∨
      (∃ c, a.statusClass = some c ∧ Fails (checkStatusClass response c)) ∨
      (∃ empty, a.bodyEmpty = some empty ∧ Fails (checkBodyEmpty response empty)) ∨
      (∃ expected, a.json = some expected ∧
        Fails (expected.check (response.pointer? expected.pointer) value?)) ∨
      ∃ expected, a.header = some expected ∧
        Fails (expected.check (response.header? expected.name) value?) := by
  rw [checkResponse, fails_bind, fails_bind, fails_bind, fails_bind, fails_whenSet, fails_whenSet,
    fails_whenSet, fails_whenSet, fails_whenSet]

/-- Only an assertion that reads a response has anything to say against one. -/
theorem readsResponse_of_fails (a : Assertion) (value? : String → Option Json) (response : Response)
    (h : Fails (a.checkResponse value? response)) : a.readsResponse = true := by
  rw [readsResponse]
  rcases (fails_checkResponse a value? response).mp h with
    ⟨_, hs, -⟩ | ⟨_, hs, -⟩ | ⟨_, hs, -⟩ | ⟨_, hs, -⟩ | ⟨_, hs, -⟩ <;> simp [hs]

theorem fails_checkOn (a : Assertion) (value? : String → Option Json) (response : Response) :
    Fails (a.checkOn response value?) ↔
      (∃ expected, a.binding = some expected ∧ Fails (expected.check value?)) ∨
      Fails (a.checkResponse value? response) := by
  rw [checkOn, fails_bind, fails_whenSet]
  apply or_congr_right
  cases hr : a.readsResponse with
  | true => rfl
  | false =>
    refine ⟨fun h => absurd rfl h, ?_⟩
    intro h
    rw [readsResponse_of_fails a value? response h] at hr
    cases hr

def shown (status : Nat) (headers : List (String × List UInt8)) (body : List UInt8) : Response :=
  ⟨⟨.get, "/", [], none⟩, "http://api.test/", status, headers, body⟩

theorem receivable_shown (status : Nat) (headers : List (String × List UInt8)) (body : List UInt8)
    (hleast : 100 ≤ status) (hmost : status < 1000)
    (hh : ∀ header ∈ headers, isHeaderName header.1 = true ∧ header.2 = []) :
    (shown status headers body).Receivable where
  least := hleast
  most := hmost
  named := fun header hm => (hh header hm).1
  sound := by
    intro header hm b hb
    rw [(hh header hm).2] at hb
    cases hb

/-- For an assertion that can be refuted there are variables and a response that do. -/
theorem exists_refuting (a : Assertion) (h : a.Refutable) :
    ∃ (store : Store) (response : Response), response.Receivable ∧
      Fails (a.checkOn response (store.lookup 0)) := by
  have hresponse (response : Response) (hr : response.Receivable)
      (hf : Fails (a.checkResponse unset response)) : ∃ (store : Store) (response : Response),
        response.Receivable ∧ Fails (a.checkOn response (store.lookup 0)) :=
    ⟨[⟨Store.rootPath, none, []⟩], response, hr, (fails_checkOn _ _ _).mpr (Or.inr hf)⟩
  rcases h with h | h | h | ⟨expected, he, h⟩ | ⟨expected, he, h⟩ | ⟨expected, he, h⟩
  · obtain ⟨status, hs⟩ := Option.isSome_iff_exists.mp h
    have hother : ∃ other, 100 ≤ other ∧ other < 1000 ∧ other ≠ status := by
      by_cases hx : status = 200
      · exact ⟨201, by omega, by omega, by omega⟩
      · exact ⟨200, by omega, by omega, by omega⟩
    obtain ⟨other, hleast, hmost, hne⟩ := hother
    refine hresponse (shown other [] []) (receivable_shown other [] [] hleast hmost nofun) ?_
    have hf : (other == status) = false := beq_eq_false_iff_ne.mpr hne
    exact (fails_checkResponse _ _ _).mpr (Or.inl ⟨status, hs, (fails_require _ _).mpr hf⟩)
  · obtain ⟨c, hc⟩ := Option.isSome_iff_exists.mp h
    refine hresponse (shown 999 [] []) (receivable_shown 999 [] [] (by omega) (by omega) nofun) ?_
    have hf : c.contains 999 = false := by cases c <;> rfl
    exact (fails_checkResponse _ _ _).mpr
      (Or.inr (Or.inl ⟨c, hc, (fails_require _ _).mpr hf⟩))
  · obtain ⟨empty, he⟩ := Option.isSome_iff_exists.mp h
    have hbody : ∃ body, ((shown 200 [] body).isBodyEmpty == empty) = false := by
      cases empty with
      | true => exact ⟨[0x78], by decide +kernel⟩
      | false => exact ⟨[], by decide +kernel⟩
    obtain ⟨body, hf⟩ := hbody
    refine hresponse (shown 200 [] body)
      (receivable_shown 200 [] body (by omega) (by omega) nofun) ?_
    exact (fails_checkResponse _ _ _).mpr
      (Or.inr (Or.inr (Or.inl ⟨empty, he, (fails_require _ _).mpr hf⟩)))
  · obtain ⟨body, hbody⟩ := expected.exists_refuting h
    refine hresponse (shown 200 [] body)
      (receivable_shown 200 [] body (by omega) (by omega) nofun) ?_
    have hf := hbody (shown 200 [] body) rfl
    exact (fails_checkResponse _ _ _).mpr (Or.inr (Or.inr (Or.inr (Or.inl ⟨expected, he, hf⟩))))
  · obtain ⟨headers, hh, hheaders⟩ := expected.exists_refuting h
    refine hresponse (shown 200 headers [])
      (receivable_shown 200 headers [] (by omega) (by omega) hh) ?_
    have hf := hheaders (shown 200 headers []) rfl
    exact (fails_checkResponse _ _ _).mpr (Or.inr (Or.inr (Or.inr (Or.inr ⟨expected, he, hf⟩))))
  · obtain ⟨store, hf⟩ := expected.exists_refuting h
    refine ⟨store, shown 200 [] [], receivable_shown 200 [] [] (by omega) (by omega) nofun, ?_⟩
    exact (fails_checkOn _ _ _).mpr (Or.inl ⟨expected, he, hf⟩)

/-- What some variables and a response that can arrive are against can be refuted. -/
theorem refutable_of_fails (a : Assertion) (response : Response) (hr : response.Receivable)
    (value? : String → Option Json) (h : Fails (a.checkOn response value?)) : a.Refutable := by
  rcases (fails_checkOn _ _ _).mp h with ⟨expected, he, hf⟩ | h
  · have hb := expected.refutable_of_fails value? hf
    exact Or.inr (Or.inr (Or.inr (Or.inr (Or.inr ⟨expected, he, hb⟩))))
  · rcases (fails_checkResponse _ _ _).mp h with
      ⟨_, hs, -⟩ | ⟨_, hs, -⟩ | ⟨_, hs, -⟩ | ⟨expected, he, hf⟩ | ⟨expected, he, hf⟩
    · exact Or.inl (by rw [hs]; rfl)
    · exact Or.inr (Or.inl (by rw [hs]; rfl))
    · exact Or.inr (Or.inr (Or.inl (by rw [hs]; rfl)))
    · have hj := expected.refutable_of_fails response value? hf
      exact Or.inr (Or.inr (Or.inr (Or.inl ⟨expected, he, hj⟩)))
    · have hx := expected.refutable_of_fails response hr value? hf
      exact Or.inr (Or.inr (Or.inr (Or.inr (Or.inl ⟨expected, he, hx⟩))))

end Assertion

namespace Scenario

def actionLabels (scenario : Scenario) : List String :=
  scenario.actions.mapIdx fun i step => step.label "action" i

/-- In a scenario without fault an assertion is about one of the responses, if there is one for each
action. -/
theorem exists_select (scenario : Scenario) (hv : scenario.fault? = none) (a : Assertion)
    (ha : a ∈ scenario.assertions) (responses : List Labelled)
    (hl : responses.map Labelled.label = scenario.actionLabels) :
    ∃ labelled ∈ responses, Assertion.select a.response responses = .ok labelled.response := by
  cases hn : a.response with
  | none =>
    have hne : responses ≠ [] := by
      rintro rfl
      have hlength := congrArg List.length hl
      rw [actionLabels, List.length_mapIdx] at hlength
      exact actions_ne_nil scenario hv (List.length_eq_zero_iff.mp hlength.symm)
    refine ⟨responses.getLast hne, List.getLast_mem hne, ?_⟩
    rw [Assertion.select, List.getLast?_eq_some_getLast hne]
  | some id =>
    obtain ⟨own, step, hstep, hid⟩ := exists_hasId scenario hv a ha id hn
    have hlabel : id ∈ responses.map Labelled.label := by
      rw [hl, actionLabels, List.mem_mapIdx]
      obtain ⟨hi, hx⟩ := List.getElem?_eq_some_iff.mp hstep
      exact ⟨own, hi, by rw [hx, RequestStep.label, hid, Option.getD_some]⟩
    obtain ⟨other, hm, ho⟩ := List.mem_map.mp hlabel
    cases hf : responses.find? fun r => r.label == id with
    | none =>
      have hnone := List.find?_eq_none.mp hf other hm
      exact absurd (beq_iff_eq.mpr ho) hnone
    | some labelled =>
      refine ⟨labelled, List.mem_of_find?_eq_some hf, ?_⟩
      rw [Assertion.select, hf]

/-- An assertion of a scenario without fault can fail, in some variables and on some response for
each action, exactly if one of its parts can be refuted. -/
theorem failing_verdict_iff (scenario : Scenario) (hv : scenario.fault? = none) (a : Assertion)
    (ha : a ∈ scenario.assertions) :
    (∃ (store : Store) (scope : ScopeId) (responses : List Labelled),
      responses.map Labelled.label = scenario.actionLabels ∧
      (∀ labelled ∈ responses, labelled.response.Receivable) ∧
      (a.verdict responses (store.lookup scope)).passed = false) ↔ a.Refutable := by
  constructor
  · rintro ⟨store, scope, responses, hl, hr, hfailed⟩
    obtain ⟨labelled, hm, hs⟩ := exists_select scenario hv a ha responses hl
    have hcheck := a.passed_verdict_iff responses (store.lookup scope) labelled.response hs
    apply a.refutable_of_fails labelled.response (hr labelled hm) (store.lookup scope)
    intro hok
    rw [hcheck.mpr hok] at hfailed
    cases hfailed
  · intro h
    obtain ⟨store, response, hr, hf⟩ := a.exists_refuting h
    have hl : (scenario.actionLabels.map fun label => Labelled.mk label response).map
        Labelled.label = scenario.actionLabels := by
      rw [List.map_map]
      exact List.map_id' _
    have hsame : ∀ labelled ∈ scenario.actionLabels.map fun label => Labelled.mk label response,
        labelled.response = response := by
      intro labelled hm
      obtain ⟨label, -, rfl⟩ := List.mem_map.mp hm
      rfl
    refine ⟨store, 0, _, hl, fun labelled hm => hsame labelled hm ▸ hr, ?_⟩
    obtain ⟨labelled, hm, hs⟩ := exists_select scenario hv a ha _ hl
    have hcheck := a.passed_verdict_iff _ (store.lookup 0) labelled.response hs
    rw [hsame labelled hm] at hcheck
    rw [← Bool.not_eq_true, hcheck]
    exact hf

def idle : Scenario where
  name := "idle"
  actions := [{ request := .new .get "/" }]
  assertions := [{ name := "a", json := some { pointer := "/id" } }]

/-- The scenario is without fault, and nothing makes its assertion fail. -/
theorem failing_verdict_iff_idle : idle.fault? = none ∧
    ∀ a ∈ idle.assertions, ¬ ∃ (store : Store) (scope : ScopeId) (responses : List Labelled),
      responses.map Labelled.label = idle.actionLabels ∧
      (∀ labelled ∈ responses, labelled.response.Receivable) ∧
      (a.verdict responses (store.lookup scope)).passed = false := by
  have hv : idle.fault? = none := by decide
  refine ⟨hv, ?_⟩
  intro a ha
  rw [failing_verdict_iff idle hv a ha]
  obtain rfl := List.mem_singleton.mp ha
  simp [Assertion.Refutable, JsonExpectation.Refutable]

end Scenario

end ApiTrial
