import ApiTrial.Scenario.Check
import ApiTrial.Scenario.Verdict

/-! Verdicts that are not about placeholders. If every text of an assertion that may hold
placeholders can be filled in, whatever the verdict says is about the response or the variables. A
complaint is told from that of an unresolved text by its first letter. -/
namespace ApiTrial

theorem Expected.head?_unresolved (e : Error) : (unresolved e).toList.head? = some 'c' := by
  have h : (unresolved e).toList = "cannot resolve expected value: ".toList ++ e.message.toList :=
    String.toList_append
  rw [h]
  rfl

def Resolves {α : Type} (result : Except String α) : Prop :=
  ∀ e, result ≠ .error (Expected.unresolved e)

section Results
variable {α β : Type}

theorem resolves_ok (a : α) : Resolves (.ok a : Except String α) := nofun

theorem resolves_error (c : Char) (complaint : String) (h : complaint.toList.head? = some c)
    (hc : c ≠ 'c') : Resolves (.error complaint : Except String α) := by
  intro e he
  have hx := Expected.head?_unresolved e
  rw [← Except.error.inj he, h, Option.some.injEq] at hx
  exact hc hx

theorem resolves_bind (x : Except String α) (f : α → Except String β) (hx : Resolves x)
    (hf : ∀ a, x = .ok a → Resolves (f a)) : Resolves (x >>= f) := by
  cases x with
  | ok a => exact hf a rfl
  | error complaint =>
    intro e he
    exact hx e (congrArg Except.error (Except.error.inj he))

theorem resolves_whenSet (part : Option α) (check : α → Except String Unit)
    (h : ∀ a, part = some a → Resolves (check a)) : Resolves (whenSet part check) := by
  cases part with
  | none => exact resolves_ok ()
  | some a => exact h a rfl

theorem resolves_require (c : Char) (holds : Bool) (complaint : String)
    (h : complaint.toList.head? = some c) (hc : c ≠ 'c') : Resolves (require holds complaint) := by
  cases holds with
  | true => exact resolves_ok ()
  | false => exact resolves_error c complaint h hc

/-- Most complaints begin with what was expected. -/
theorem resolves_expected (holds : Bool) (complaint : String)
    (h : complaint.toList.head? = some 'e') : Resolves (require holds complaint) :=
  resolves_require 'e' holds complaint h (by decide)

end Results

section Values
variable (value? : String → Option Json)

def HasText (source : String) : Prop := ∃ text, Template.substitute source value? = .ok text

theorem resolves_text (source : String) (h : HasText value? source) :
    Resolves (Expected.text value? source) := by
  obtain ⟨text, ht⟩ := h
  rw [Expected.text, ht]
  exact resolves_ok text

theorem resolves_resolve (value : Json)
    (h : ∀ source, value.str? = some source → HasText value? source) :
    Resolves (Expected.resolve value? value) := by
  cases value with
  | str source =>
    rw [Expected.resolve]
    split
    · apply resolves_bind _ _ (resolves_text value? source (h source rfl))
      exact fun text _ => resolves_ok _
    · exact resolves_ok _
  | _ => exact resolves_ok _

/-- A check of a variable comes to a verdict if its text is at hand. -/
theorem resolves_variable (expected : VariableExpectation)
    (h : ∀ source, expected.equals.bind Json.str? = some source → HasText value? source) :
    Resolves (expected.check value?) := by
  apply resolves_bind
  · apply resolves_whenSet
    intro present _
    apply resolves_expected
    split <;> simp only [String.toList_append, List.head?_append] <;> rfl
  · intro _ _
    apply resolves_whenSet
    intro value hv
    apply resolves_bind
    · exact resolves_resolve value? value fun source hs => h source (by rw [hv]; exact hs)
    · intro wanted _
      cases value? expected.key with
      | some actual =>
        apply resolves_expected
        simp only [String.toList_append, List.head?_append]
        rfl
      | none =>
        apply resolves_error '\x27'
        · simp only [String.toList_append, List.head?_append]
          rfl
        · decide

/-- A check of a JSON value comes to a verdict if its texts are at hand. -/
theorem resolves_json (expected : JsonExpectation) (actual : Option Json)
    (he : ∀ source, expected.equals.bind Json.str? = some source → HasText value? source)
    (hc : ∀ source, expected.contains = some source → HasText value? source) :
    Resolves (expected.check actual value?) := by
  apply resolves_bind
  · apply resolves_whenSet
    intro wanted _
    apply resolves_expected
    split <;> simp only [String.toList_append, List.head?_append] <;> rfl
  intro _ _
  apply resolves_bind
  · apply resolves_whenSet
    intro value hv
    apply resolves_bind
    · exact resolves_resolve value? value fun source hs => he source (by rw [hv]; exact hs)
    · intro wanted _
      cases actual with
      | some actual =>
        apply resolves_expected
        simp only [String.toList_append, List.head?_append]
        rfl
      | none =>
        apply resolves_expected
        simp only [String.toList_append, List.head?_append]
        rfl
  · intro _ _
    apply resolves_whenSet
    intro source hs
    apply resolves_bind _ _ (resolves_text value? source (hc source hs))
    intro needle _
    apply resolves_expected
    simp only [String.toList_append, List.head?_append]
    rfl

/-- A check of a header comes to a verdict if its text is at hand. -/
theorem resolves_header (expected : HeaderExpectation) (actual : Option String)
    (h : ∀ source, expected.equals = some source → HasText value? source) :
    Resolves (expected.check actual value?) := by
  apply resolves_bind
  · apply resolves_whenSet
    intro present _
    rw [HeaderExpectation.checkPresent]
    cases present with
    | true =>
      apply resolves_expected
      simp only [if_true, String.toList_append, List.head?_append]
      rfl
    | false =>
      apply resolves_require 'u'
      · simp only [Bool.false_eq_true, if_false, String.toList_append, List.head?_append]
        rfl
      · decide
  · intro _ _
    apply resolves_whenSet
    intro source hs
    apply resolves_bind _ _ (resolves_text value? source (h source hs))
    intro wanted _
    apply resolves_expected
    simp only [String.toList_append, List.head?_append]
    rfl

theorem resolves_select (target : Option String) (responses : List Labelled) :
    Resolves (Assertion.select target responses) := by
  cases target with
  | some label =>
    rw [Assertion.select]
    split
    · exact resolves_ok _
    · apply resolves_error 'n'
      · simp only [String.toList_append, List.head?_append]
        rfl
      · decide
  | none =>
    rw [Assertion.select]
    split
    · exact resolves_ok _
    · exact resolves_error 'n' _ rfl (by decide)

variable (a : Assertion) (h : ∀ text ∈ Check.texts a, HasText value? text)
include h

theorem resolves_response (response : Response) : Resolves (a.checkResponse value? response) := by
  apply resolves_bind
  · apply resolves_whenSet
    intro status _
    apply resolves_expected
    simp only [String.toList_append, List.head?_append]
    rfl
  intro _ _
  apply resolves_bind
  · apply resolves_whenSet
    intro c _
    apply resolves_expected
    simp only [String.toList_append, List.head?_append]
    rfl
  intro _ _
  apply resolves_bind
  · apply resolves_whenSet
    intro empty _
    apply resolves_expected
    split
    · simp only [String.toList_append, List.head?_append]
      rfl
    · rfl
  intro _ _
  apply resolves_bind
  · apply resolves_whenSet
    intro expected he
    apply resolves_json
    · exact fun source hs => h source (by simp [Check.texts, he, hs])
    · exact fun source hs => h source (by simp [Check.texts, he, hs])
  · intro _ _
    apply resolves_whenSet
    intro expected he
    apply resolves_header
    exact fun source hs => h source (by simp [Check.texts, he, hs])

/-- An assertion whose texts all have values does not fail for want of one. -/
theorem verdict_resolves (responses : List Labelled) (e : Error) :
    (a.verdict responses value?).message ≠ some (Expected.unresolved e) := by
  have hc : Resolves (a.check responses value?) := by
    apply resolves_bind
    · apply resolves_whenSet
      intro expected he
      apply resolves_variable
      exact fun source hs => h source (by simp [Check.texts, he, hs])
    · intro _ _
      split
      · apply resolves_bind _ _ (resolves_select a.response responses)
        exact fun response _ => resolves_response value? a h response
      · exact resolves_ok ()
  rw [Assertion.verdict]
  cases hr : a.check responses value? with
  | ok u => nofun
  | error message =>
    intro hm
    exact hc e (by rw [hr, Option.some.inj hm])

end Values

end ApiTrial
