import ApiTrial.Proofs.AssertionParts
import ApiTrial.Proofs.TemplateJoined

/-! Expected values that are a placeholder alone. Such a value is the text of its variable, and it
accepts what is written like that. So it accepts the value of the variable, as this value would by
itself; only that no value at all is taken for null is lost, since null is then expected as a text.
-/
namespace ApiTrial

def Template.placeholderText (key : String) : String := "\x7b\x7b" ++ key ++ "\x7d\x7d"

namespace Json

inductive Floatless : Json → Prop
  | null : Floatless null
  | bool (value : Bool) : Floatless (bool value)
  | int (value : Int) : Floatless (int value)
  | str (text : String) : Floatless (str text)
  | arr (items : List Json) (floatless : ∀ item ∈ items, Floatless item) : Floatless (arr items)
  | obj (members : List (String × Json)) (floatless : ∀ member ∈ members, Floatless member.2) :
      Floatless (obj members)

theorem eq_of_sameItems (others items : List Json) (h : sameItems others items = true)
    (hi : ∀ item ∈ items, ∀ other : Json, other.same item = true → other = item) :
    others = items := by
  induction items generalizing others with
  | nil =>
    cases others with
    | nil => rfl
    | cons other others => cases h
  | cons item items ih =>
    cases others with
    | nil => cases h
    | cons other others =>
      rw [sameItems, Bool.and_eq_true] at h
      obtain ⟨hhead, htail⟩ := List.forall_mem_cons.mp hi
      rw [hhead other h.1, ih others h.2 htail]

/-- Members that are found the same one by one are equal. -/
theorem eq_of_sameMembers (others members : List (String × Json))
    (h : sameMembers others members = true)
    (hm : ∀ member ∈ members, ∀ other : Json, other.same member.2 = true → other = member.2) :
    others = members := by
  induction members generalizing others with
  | nil =>
    cases others with
    | nil => rfl
    | cons other others => cases h
  | cons member members ih =>
    cases others with
    | nil => cases h
    | cons other others =>
      rw [sameMembers, Bool.and_eq_true, Bool.and_eq_true, beq_iff_eq] at h
      obtain ⟨hhead, htail⟩ := List.forall_mem_cons.mp hm
      rw [ih others h.2 htail, Prod.ext h.1.1 (hhead other.2 h.1.2)]

/-- Without floating-point numbers, of which two zeros are the same, only equal values are the same. -/
theorem eq_of_same (other value : Json) (h : other.same value = true) (hv : value.Floatless) :
    other = value := by
  induction hv generalizing other with
  | null =>
    cases other with
    | null => rfl
    | _ => cases h
  | bool value =>
    cases other with
    | bool b => rw [eq_of_beq (a := b) h]
    | _ => cases h
  | int value =>
    cases other with
    | int i => rw [eq_of_beq (a := i) h]
    | _ => cases h
  | str text =>
    cases other with
    | str t => rw [eq_of_beq (a := t) h]
    | _ => cases h
  | arr items floatless ih =>
    cases other with
    | arr others => rw [eq_of_sameItems others items h fun item hi other => ih item hi other]
    | _ => cases h
  | obj members floatless ih =>
    cases other with
    | obj others => rw [eq_of_sameMembers others members h fun member hm other => ih member hm other]
    | _ => cases h

end Json

namespace Expected

/-- What is expected as a text accepts each value that is written like it. -/
theorem accepts_text_iff (text : String) (actual : Json) :
    (Expected.mk (.str text) true).accepts actual = true ↔ actual.splice = text := by
  have hsame (h : actual.same (.str text) = true) : actual.splice = text := by
    rw [Json.eq_of_same actual _ h (.str text)]
    rfl
  rw [accepts, Bool.true_and, Bool.or_eq_true, beq_iff_eq]
  exact or_iff_right_of_imp hsame

/-- A value that is not a template is expected as it is. -/
theorem resolve_literal (value? : String → Option Json) (value : Json)
    (h : ∀ source, value = .str source → Text.occurs templateMark source = false) :
    resolve value? value = .ok ⟨value, false⟩ := by
  cases value with
  | str source => rw [resolve, h source rfl, if_neg Bool.false_ne_true]
  | _ => rfl

section Placeholder
variable (value? : String → Option Json) (key : String) (hk : Template.IsKey key.toList)
include hk

theorem text_placeholder : text value? (Template.placeholderText key) =
    match value? key with
    | some value => .ok value.splice
    | none => .error (unresolved (.undefinedVariable key)) := by
  rw [text, Template.placeholderText, Template.substitute_placeholder value? key hk,
    valueOf]
  cases value? key <;> rfl

theorem resolve_placeholder : resolve value? (.str (Template.placeholderText key)) =
    match value? key with
    | some value => .ok ⟨.str value.splice, true⟩
    | none => .error (unresolved (.undefinedVariable key)) := by
  have hmark : Text.occurs templateMark (Template.placeholderText key) = true := by
    rw [Text.occurs, Text.occursIn_iff, Template.placeholderText, String.append_assoc]
    exact ⟨[], _, String.toList_append⟩
  rw [resolve, hmark, if_pos rfl, text_placeholder value? key hk]
  cases value? key <;> rfl

end Placeholder

end Expected

section Placeholder
variable (value? : String → Option Json) (key : String) (hk : Template.IsKey key.toList)
include hk

/-- A value at a pointer is met by a placeholder if it is written like the variable. -/
theorem JsonExpectation.checkEquals_placeholder_iff (expected : JsonExpectation)
    (actual : Option Json) :
    expected.checkEquals actual value? (.str (Template.placeholderText key)) = .ok () ↔
      ∃ value found, value? key = some value ∧ actual = some found ∧
        found.splice = value.splice := by
  rw [checkEquals, Expected.resolve_placeholder value? key hk]
  cases value? key with
  | none => simp [bind, Except.bind]
  | some value =>
    cases actual with
    | none => simp [bind, Except.bind, require, Json.isNull]
    | some found => simp [bind, Except.bind, require_eq_ok_iff, Expected.accepts_text_iff]

/-- So is a header by its text. -/
theorem HeaderExpectation.checkEquals_placeholder_iff (expected : HeaderExpectation)
    (actual : Option String) :
    expected.checkEquals actual value? (Template.placeholderText key) = .ok () ↔
      ∃ value, value? key = some value ∧ actual = some value.splice := by
  rw [checkEquals, Expected.text_placeholder value? key hk]
  cases value? key <;> simp [bind, Except.bind, require_eq_ok_iff]

/-- And another variable. -/
theorem VariableExpectation.checkEquals_placeholder_iff (expected : VariableExpectation) :
    expected.checkEquals value? (.str (Template.placeholderText key)) = .ok () ↔
      ∃ value found, value? key = some value ∧ value? expected.key = some found ∧
        found.splice = value.splice := by
  rw [checkEquals, Expected.resolve_placeholder value? key hk]
  cases value? key with
  | none => simp [bind, Except.bind]
  | some value =>
    cases value? expected.key with
    | none => simp [bind, Except.bind]
    | some found => simp [bind, Except.bind, require_eq_ok_iff, Expected.accepts_text_iff]

end Placeholder

section Literal
variable (value? : String → Option Json) (value : Json)
  (h : ∀ source, value = .str source → Text.occurs Expected.templateMark source = false)
include h

/-- A literal is met by a value that is the same, and null also by no value. -/
theorem JsonExpectation.checkEquals_literal_iff (expected : JsonExpectation) (actual : Option Json) :
    expected.checkEquals actual value? value = .ok () ↔
      (∃ found, actual = some found ∧ found.same value = true) ∨ actual = none ∧ value = .null := by
  have hnull : value.isNull = true ↔ value = .null := by cases value <;> simp [Json.isNull]
  rw [checkEquals, Expected.resolve_literal value? value h]
  cases actual with
  | none => simp [bind, Except.bind, require_eq_ok_iff, hnull]
  | some found => simp [bind, Except.bind, require_eq_ok_iff, Expected.accepts]

theorem VariableExpectation.checkEquals_literal_iff (expected : VariableExpectation) :
    expected.checkEquals value? value = .ok () ↔
      ∃ found, value? expected.key = some found ∧ found.same value = true := by
  rw [checkEquals, Expected.resolve_literal value? value h]
  cases value? expected.key with
  | none => simp [bind, Except.bind]
  | some found => simp [bind, Except.bind, require_eq_ok_iff, Expected.accepts]

end Literal

namespace Assertion
variable (name : String) (target : Option String) (responses : List Labelled)
  (value? : String → Option Json)

theorem passed_jsonEquals_iff (pointer : String) (wanted : Json) (response : Response)
    (h : select target responses = .ok response) :
    (verdict { name, response := target, json := some { pointer, equals := some wanted } }
      responses value?).passed = true ↔
      JsonExpectation.checkEquals { pointer } (response.pointer? pointer) value? wanted = .ok () := by
  let expected : JsonExpectation := { pointer, equals := some wanted }
  have hcheck := passed_json_iff { name, response := target } responses value? response h expected
  have hequals := expected.check_equals (response.pointer? pointer) value? wanted
  rw [hequals] at hcheck
  exact hcheck

/-- A value without floating-point numbers that is no template is expected by itself or, set as a
variable, through the placeholder of that. Of a body, the placeholder is refused what the value is
granted exactly if the value is null and nothing is there. Of a variable, it is never refused. -/
theorem placeholder_accepts_literal_iff (key : String) (value : Json)
    (hk : Template.IsKey key.toList) (hv : value.Floatless)
    (ht : ∀ text, value = .str text → Text.occurs "\x7b\x7b" text = false)
    (hs : value? key = some value) :
    (∀ response pointer, select target responses = .ok response →
      let passes (wanted : Json) := (verdict
        { name, response := target, json := some { pointer, equals := some wanted } }
        responses value?).passed
      (passes value = true ∧ passes (.str (Template.placeholderText key)) = false ↔
        value = .null ∧ response.pointer? pointer = none)) ∧
    ∀ other,
      let passes (wanted : Json) := (verdict
        { name, response := target, binding := some { key := other, equals := some wanted } }
        responses value?).passed
      passes value = true → passes (.str (Template.placeholderText key)) = true := by
  constructor
  · intro response pointer hselect passes
    have hliteral : passes value = true ↔ _ :=
      (passed_jsonEquals_iff name target responses value? pointer value response hselect).trans
        (JsonExpectation.checkEquals_literal_iff value? value ht _ _)
    have hplaceholder : passes (.str (Template.placeholderText key)) = true ↔ _ :=
      (passed_jsonEquals_iff name target responses value? pointer _ response hselect).trans
        (JsonExpectation.checkEquals_placeholder_iff value? key hk _ _)
    constructor
    · rintro ⟨hpasses, hrefused⟩
      rcases hliteral.mp hpasses with ⟨found, hfound, hsame⟩ | ⟨hnone, hnull⟩
      · -- What is there is the value itself, and so it is written like it.
        have heq : found = value := Json.eq_of_same found value hsame hv
        have haccepted := hplaceholder.mpr ⟨value, found, hs, hfound, by rw [heq]⟩
        exact absurd haccepted (Bool.eq_false_iff.mp hrefused)
      · exact ⟨hnull, hnone⟩
    · rintro ⟨hnull, hnone⟩
      refine ⟨hliteral.mpr (Or.inr ⟨hnone, hnull⟩), ?_⟩
      rw [Bool.eq_false_iff, ne_eq, hplaceholder]
      rintro ⟨-, found, -, hfound, -⟩
      cases hnone.symm.trans hfound
  · intro other passes hpasses
    have hcheck (wanted : Json) : passes wanted = true ↔
        VariableExpectation.checkEquals { key := other } value? wanted = .ok () :=
      passed_binding_iff { name, response := target } responses value?
        { key := other, equals := some wanted }
    rw [hcheck, VariableExpectation.checkEquals_literal_iff value? value ht] at hpasses
    rw [hcheck, VariableExpectation.checkEquals_placeholder_iff value? key hk]
    obtain ⟨found, hfound, hsame⟩ := hpasses
    exact ⟨value, found, hs, hfound, by rw [Json.eq_of_same found value hsame hv]⟩

def dateless : Response where
  request := ⟨.get, "/event", [], none⟩
  url := "http://api.test/event"
  status := 200
  headers := []
  body := [0x7b, 0x7d]

/-- Null is expected of a date that is not there. By itself it is met, and as a variable it is not,
though the variable is what is expected of it. -/
theorem placeholder_accepts_literal_iff_dateless :
    let value? : String → Option Json := fun key => if key = "start" then some .null else none
    let passes (wanted : Json) := (verdict
      { name := "start", json := some { pointer := "/start", equals := some wanted } }
      [⟨"event", dateless⟩] value?).passed
    let passesOf (wanted : Json) := (verdict
      { name := "start", binding := some { key := "start", equals := some wanted } }
      [⟨"event", dateless⟩] value?).passed
    passes .null = true ∧ passes (.str (Template.placeholderText "start")) = false ∧
    passesOf .null = true ∧ passesOf (.str (Template.placeholderText "start")) = true := by
  intro value? passes passesOf
  have hk : Template.IsKey "start".toList := Template.isKey_of_all _ (by decide) (by decide)
  obtain ⟨hjson, hvariable⟩ := placeholder_accepts_literal_iff "start" none [⟨"event", dateless⟩]
    value? "start" .null hk .null nofun rfl
  have hnothing : dateless.pointer? "/start" = none := by decide +kernel
  obtain ⟨hpasses, hrefused⟩ := (hjson dateless "/start" rfl).mpr ⟨rfl, hnothing⟩
  exact ⟨hpasses, hrefused, rfl, hvariable "start" rfl⟩

end Assertion

end ApiTrial
