import ApiTrial.Proofs.AssertionTarget
import Mathlib.Data.List.Basic

/-! Assertions taken apart. An assertion is the list of its single checks, each of which makes an
assertion of its own, and it makes them in turn. So it passes if each of them does by itself, and
otherwise complains as the first of them that does not. -/
namespace ApiTrial

section Turns
variable {α β γ : Type} (check : γ → Except String Unit)

theorem forM_singleton (only : γ) : forM [only] check = check only := by
  rw [List.forM_cons]
  cases check only <;> rfl

/-- A part that may be set is a list of one check, or of none. -/
theorem forM_toList (part : Option α) (wrap : α → γ) :
    forM (part.toList.map wrap) check = whenSet part fun a => check (wrap a) := by
  cases part with
  | none => rfl
  | some a => exact forM_singleton check (wrap a)

/-- So is a group of parts. -/
theorem forM_flatMap (group : Option α) (parts : α → List β) (wrap : β → γ) :
    forM ((group.toList.flatMap parts).map wrap) check =
      whenSet group fun a => forM (parts a) fun part => check (wrap part) := by
  cases group with
  | none => rfl
  | some a =>
    rw [Option.toList_some, List.flatMap_singleton, whenSet]
    exact List.forM_map

/-- What is checked in turn is right if each of it is right by itself. -/
theorem forM_eq_ok_iff (parts : List γ) :
    forM parts check = .ok () ↔ ∀ part ∈ parts, check part = .ok () := by
  induction parts with
  | nil => exact iff_of_true rfl nofun
  | cons first rest ih =>
    rw [List.forall_mem_cons, ← ih, List.forM_cons]
    cases check first with
    | ok u => exact (and_iff_right rfl).symm
    | error complaint => exact iff_of_false nofun fun h => nomatch h.1

/-- Otherwise the first part that is wrong gives the complaint. -/
theorem exists_first_of_forM (parts : List γ) (complaint : String)
    (h : forM parts check = .error complaint) :
    ∃ before part after, parts = before ++ part :: after ∧
      (∀ earlier ∈ before, check earlier = .ok ()) ∧ check part = .error complaint := by
  induction parts with
  | nil => cases h
  | cons first rest ih =>
    rw [List.forM_cons] at h
    cases hf : check first with
    | ok u =>
      rw [hf] at h
      obtain ⟨before, part, after, he, hb, hp⟩ := ih h
      refine ⟨first :: before, part, after, by rw [he, List.cons_append], ?_, hp⟩
      exact List.forall_mem_cons.mpr ⟨hf, hb⟩
    | error first_complaint =>
      rw [hf] at h
      cases h
      exact ⟨[], first, rest, rfl, nofun, hf⟩

end Turns

namespace VariableExpectation

def parts (expected : VariableExpectation) : List VariableExpectation :=
  (expected.present.toList.map fun present => { key := expected.key, present := some present }) ++
  expected.equals.toList.map fun value => { key := expected.key, equals := some value }

theorem check_eq_forM (expected : VariableExpectation) (value? : String → Option Json) :
    expected.check value? = forM expected.parts fun part => part.check value? := by
  have hpresent (present : Bool) : check { key := expected.key, present := some present } value? =
      expected.checkPresent value? present :=
    forM_singleton (expected.checkPresent value?) present
  rw [parts, List.forM_append, forM_toList, forM_toList]
  simp only [hpresent]
  rfl

end VariableExpectation

namespace JsonExpectation

def parts (expected : JsonExpectation) : List JsonExpectation :=
  (expected.exists?.toList.map fun wanted =>
    { pointer := expected.pointer, exists? := some wanted }) ++
  (expected.equals.toList.map fun value =>
    { pointer := expected.pointer, equals := some value }) ++
  expected.contains.toList.map fun source =>
    { pointer := expected.pointer, contains := some source }

/-- An expectation of nothing but a value checks that value, with nothing behind it. -/
theorem check_equals (expected : JsonExpectation) (actual : Option Json)
    (value? : String → Option Json) (value : Json) :
    check { pointer := expected.pointer, equals := some value } actual value? =
      expected.checkEquals actual value? value :=
  forM_singleton (expected.checkEquals actual value?) value

theorem check_eq_forM (expected : JsonExpectation) (read : String → Option Json)
    (value? : String → Option Json) :
    expected.check (read expected.pointer) value? =
      forM expected.parts fun part => part.check (read part.pointer) value? := by
  have hexists (wanted : Bool) :
      check { pointer := expected.pointer, exists? := some wanted } (read expected.pointer) value? =
        expected.checkExists (read expected.pointer) wanted :=
    forM_singleton (expected.checkExists (read expected.pointer)) wanted
  rw [parts, List.append_assoc, List.forM_append, List.forM_append, forM_toList, forM_toList,
    forM_toList]
  simp only [hexists, check_equals]
  rfl

end JsonExpectation

namespace HeaderExpectation

def parts (expected : HeaderExpectation) : List HeaderExpectation :=
  (expected.present.toList.map fun present =>
    { name := expected.name, present := some present }) ++
  expected.equals.toList.map fun source => { name := expected.name, equals := some source }

/-- An expectation of nothing but a header's presence checks that, with nothing behind it. -/
theorem check_present (expected : HeaderExpectation) (actual : Option String)
    (value? : String → Option Json) (present : Bool) :
    check { name := expected.name, present := some present } actual value? =
      expected.checkPresent actual present :=
  forM_singleton (expected.checkPresent actual) present

theorem check_eq_forM (expected : HeaderExpectation) (read : String → Option String)
    (value? : String → Option Json) :
    expected.check (read expected.name) value? =
      forM expected.parts fun part => part.check (read part.name) value? := by
  rw [parts, List.forM_append, forM_toList, forM_toList]
  simp only [check_present]
  rfl

end HeaderExpectation

namespace Assertion

def blank (a : Assertion) : Assertion := { name := a.name, response := a.response }

def parts (a : Assertion) : List Assertion :=
  ((a.binding.toList.flatMap VariableExpectation.parts).map fun part =>
    { a.blank with binding := some part }) ++
  (a.status.toList.map fun status => { a.blank with status := some status }) ++
  (a.statusClass.toList.map fun c => { a.blank with statusClass := some c }) ++
  (a.bodyEmpty.toList.map fun empty => { a.blank with bodyEmpty := some empty }) ++
  ((a.json.toList.flatMap JsonExpectation.parts).map fun part =>
    { a.blank with json := some part }) ++
  (a.header.toList.flatMap HeaderExpectation.parts).map fun part =>
    { a.blank with header := some part }

theorem response_of_mem_parts (a part : Assertion) (h : part ∈ a.parts) :
    part.response = a.response := by
  simp only [parts, List.mem_append, List.mem_map] at h
  rcases h with ((((⟨_, -, rfl⟩ | ⟨_, -, rfl⟩) | ⟨_, -, rfl⟩) | ⟨_, -, rfl⟩) | ⟨_, -, rfl⟩) |
    ⟨_, -, rfl⟩ <;> rfl

/-- An assertion that reads no response has nothing to say against one. -/
theorem checkOn_eq (a : Assertion) (response : Response) (value? : String → Option Json) :
    a.checkOn response value? = (whenSet a.binding fun expected => expected.check value?) >>=
      fun _ => a.checkResponse value? response := by
  rw [checkOn]
  congr 1
  funext _
  split
  · rfl
  · rename_i hr
    simp only [readsResponse, Bool.or_eq_true, not_or, Option.not_isSome_iff_eq_none] at hr
    obtain ⟨⟨⟨⟨hstatus, hclass⟩, hempty⟩, hjson⟩, hheader⟩ := hr
    rw [checkResponse, hstatus, hclass, hempty, hjson, hheader]
    rfl

section Parts
variable (a : Assertion) (response : Response) (value? : String → Option Json)

theorem checkOn_binding (part : VariableExpectation) :
    checkOn { a.blank with binding := some part } response value? = part.check value? :=
  (checkOn_eq _ response value?).trans
    (forM_singleton (fun part : VariableExpectation => part.check value?) part)

theorem checkOn_status (status : Nat) :
    checkOn { a.blank with status := some status } response value? = checkStatus response status :=
  (checkOn_eq _ response value?).trans (forM_singleton (checkStatus response) status)

theorem checkOn_statusClass (c : StatusClass) :
    checkOn { a.blank with statusClass := some c } response value? = checkStatusClass response c :=
  (checkOn_eq _ response value?).trans (forM_singleton (checkStatusClass response) c)

theorem checkOn_bodyEmpty (empty : Bool) :
    checkOn { a.blank with bodyEmpty := some empty } response value? =
      checkBodyEmpty response empty :=
  (checkOn_eq _ response value?).trans (forM_singleton (checkBodyEmpty response) empty)

theorem checkOn_json (part : JsonExpectation) :
    checkOn { a.blank with json := some part } response value? =
      part.check (response.pointer? part.pointer) value? :=
  (checkOn_eq _ response value?).trans
    (forM_singleton
      (fun part : JsonExpectation => part.check (response.pointer? part.pointer) value?) part)

theorem checkOn_header (part : HeaderExpectation) :
    checkOn { a.blank with header := some part } response value? =
      part.check (response.header? part.name) value? :=
  checkOn_eq _ response value?

/-- An assertion makes its single checks in turn. -/
theorem checkOn_eq_forM :
    a.checkOn response value? = forM a.parts fun part => part.checkOn response value? := by
  simp only [parts, List.forM_append, forM_flatMap, forM_toList, checkOn_binding, checkOn_status,
    checkOn_statusClass, checkOn_bodyEmpty, checkOn_json, checkOn_header,
    ← VariableExpectation.check_eq_forM, ← JsonExpectation.check_eq_forM,
    ← HeaderExpectation.check_eq_forM]
  rw [checkOn_eq, checkResponse]
  simp only [bind_assoc]

end Parts

section Single
variable (a : Assertion) (responses : List Labelled) (value? : String → Option Json)

/-- An assertion about a variable alone needs no response. -/
theorem passed_binding_iff (part : VariableExpectation) :
    (verdict { a.blank with binding := some part } responses value?).passed = true ↔
      part.check value? = .ok () := by
  have hcheck : check { a.blank with binding := some part } responses value? = part.check value? :=
    forM_singleton (fun part : VariableExpectation => part.check value?) part
  rw [verdict, hcheck]
  cases part.check value? <;> simp

variable (response : Response) (h : select a.response responses = .ok response)
include h

theorem passed_json_iff (part : JsonExpectation) :
    (verdict { a.blank with json := some part } responses value?).passed = true ↔
      part.check (response.pointer? part.pointer) value? = .ok () := by
  rw [passed_verdict_iff { a.blank with json := some part } responses value? response h,
    checkOn_json]

theorem passed_header_iff (part : HeaderExpectation) :
    (verdict { a.blank with header := some part } responses value?).passed = true ↔
      part.check (response.header? part.name) value? = .ok () := by
  rw [passed_verdict_iff { a.blank with header := some part } responses value? response h,
    checkOn_header]

end Single

theorem message_of_error (a : Assertion) (responses : List Labelled)
    (value? : String → Option Json) (response : Response) (complaint : String)
    (h : select a.response responses = .ok response)
    (hc : a.checkOn response value? = .error complaint) :
    (a.verdict responses value?).passed = false ∧
      (a.verdict responses value?).message = some complaint := by
  rw [verdict_of_select a responses value? response h, verdictOn, hc]
  exact ⟨rfl, rfl⟩

/-- An assertion about a response that is there is the conjunction of its single checks: it passes
exactly if each of them passes as an assertion of its own, and otherwise its message is that of the
first one that does not pass. -/
theorem verdict_is_conjunction (a : Assertion) (responses : List Labelled)
    (value? : String → Option Json) (response : Response)
    (h : select a.response responses = .ok response) :
    ((a.verdict responses value?).passed = true ↔
      ∀ part ∈ a.parts, (part.verdict responses value?).passed = true) ∧
    ((a.verdict responses value?).passed = false →
      ∃ before part after, a.parts = before ++ part :: after ∧
        (∀ earlier ∈ before, (earlier.verdict responses value?).passed = true) ∧
        (part.verdict responses value?).passed = false ∧
        (a.verdict responses value?).message = (part.verdict responses value?).message) := by
  have hselect : ∀ part ∈ a.parts, select part.response responses = .ok response := by
    intro part hp
    rw [response_of_mem_parts a part hp]
    exact h
  have hpassed : ∀ part ∈ a.parts, ((part.verdict responses value?).passed = true ↔
      part.checkOn response value? = .ok ()) := fun part hp =>
    part.passed_verdict_iff responses value? response (hselect part hp)
  have hturns := a.checkOn_eq_forM response value?
  constructor
  · rw [a.passed_verdict_iff responses value? response h, hturns, forM_eq_ok_iff]
    exact forall₂_congr fun part hp => (hpassed part hp).symm
  · intro hfailed
    cases hc : a.checkOn response value? with
    | ok u =>
      rw [(a.passed_verdict_iff responses value? response h).mpr hc] at hfailed
      cases hfailed
    | error complaint =>
      rw [hturns] at hc
      obtain ⟨before, part, after, he, hb, hp⟩ := exists_first_of_forM _ _ _ hc
      have hmem : ∀ earlier ∈ before, earlier ∈ a.parts := by
        intro earlier hm
        rw [he]
        exact List.mem_append_left _ hm
      have hpart : part ∈ a.parts := by
        rw [he]
        exact List.mem_append_right _ List.mem_cons_self
      rw [← hturns] at hc
      obtain ⟨-, hmessage⟩ := a.message_of_error responses value? response complaint h hc
      obtain ⟨hfails, hmessage'⟩ :=
        part.message_of_error responses value? response complaint (hselect part hpart) hp
      refine ⟨before, part, after, he, ?_, hfails, hmessage.trans hmessage'.symm⟩
      exact fun earlier hm => (hpassed earlier (hmem earlier hm)).mpr (hb earlier hm)

def orderPlaced : List Labelled :=
  [⟨"order", ⟨⟨.post, "/orders", [], none⟩, "http://api.test/orders", 201, [],
    [0x7b, 0x22, 0x69, 0x64, 0x22, 0x3a, 0x37, 0x7d]⟩⟩]

def orderChecked : Assertion where
  name := "order"
  status := some 201
  json := some { pointer := "/id", equals := some (.int 7), contains := some "8" }
  header := some { name := "etag", present := some true }
  binding := some { key := "order", present := some false }

theorem verdict_is_conjunction_orderChecked :
    (∃ response, select orderChecked.response orderPlaced = .ok response) ∧
    (¬ ∀ part ∈ orderChecked.parts,
      (part.verdict orderPlaced fun _ => none).passed = true) ∧
    ∃ before part after, orderChecked.parts = before ++ part :: after ∧
      (∀ earlier ∈ before, (earlier.verdict orderPlaced fun _ => none).passed = true) ∧
      (part.verdict orderPlaced fun _ => none).passed = false ∧
      some "expected '7' to contain '8'" = (part.verdict orderPlaced fun _ => none).message := by
  have hverdict : orderChecked.verdict orderPlaced (fun _ => none) =
      ⟨"order", false, some "expected '7' to contain '8'"⟩ := by decide +kernel
  obtain ⟨hpassed, hfirst⟩ := verdict_is_conjunction orderChecked orderPlaced (fun _ => none) _ rfl
  rw [hverdict] at hpassed hfirst
  refine ⟨⟨_, rfl⟩, ?_, hfirst rfl⟩
  rw [← hpassed]
  exact Bool.false_ne_true

end Assertion

end ApiTrial
