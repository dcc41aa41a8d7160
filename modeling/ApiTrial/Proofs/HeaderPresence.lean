import ApiTrial.Proofs.AssertionParts

/-! Whether a header is there. A check for a header looks at the first value under its name and asks
whether that can be read as text. So a header that cannot be read counts as one that is not there,
and a later value of the same name does not make up for it. -/
namespace ApiTrial

namespace Response
variable (response : Response) (name : String)

/-- One of the headers has the name, up to case. -/
def Carries : Prop := ∃ header ∈ response.headers, Text.sameIgnoringCase header.1 name = true

def FirstValue (value : List UInt8) : Prop :=
  ∃ before found after, response.headers = before ++ (found, value) :: after ∧
    Text.sameIgnoringCase found name = true ∧
    ∀ earlier ∈ before, Text.sameIgnoringCase earlier.1 name = false

def Shows : Prop :=
  ∃ value, response.FirstValue name value ∧ ∀ b ∈ value, b = 9 ∨ 32 ≤ b ∧ b < 127

theorem headerBytes?_eq_some_iff (value : List UInt8) :
    response.headerBytes? name = some value ↔ response.FirstValue name value := by
  rw [headerBytes?, Option.map_eq_some_iff]
  constructor
  · rintro ⟨⟨found, value⟩, hfind, rfl⟩
    obtain ⟨hsame, before, after, heq, hbefore⟩ := List.find?_eq_some_iff_append.mp hfind
    refine ⟨before, found, after, heq, hsame, ?_⟩
    intro earlier he
    simpa using hbefore earlier he
  · rintro ⟨before, found, after, heq, hsame, hbefore⟩
    refine ⟨(found, value), List.find?_eq_some_iff_append.mpr ⟨hsame, before, after, heq, ?_⟩, rfl⟩
    intro earlier he
    rw [hbefore earlier he]
    rfl

/-- A header that is carried has a first value. -/
theorem carries_iff : response.Carries name ↔ ∃ value, response.FirstValue name value := by
  constructor
  · rintro ⟨header, hm, hsame⟩
    cases hfind : response.headers.find? fun h => Text.sameIgnoringCase h.1 name with
    | none => exact absurd hsame (List.find?_eq_none.mp hfind header hm)
    | some first =>
      refine ⟨first.2, (response.headerBytes?_eq_some_iff name first.2).mp ?_⟩
      rw [headerBytes?, hfind]
      rfl
  · rintro ⟨value, before, found, after, heq, hsame, -⟩
    refine ⟨(found, value), ?_, hsame⟩
    rw [heq]
    exact List.mem_append_right _ List.mem_cons_self

theorem isHeaderText_iff (b : UInt8) : isHeaderText b = true ↔ b = 9 ∨ 32 ≤ b ∧ b < 127 := by
  rw [isHeaderText, Bool.or_eq_true, Bool.and_eq_true, decide_eq_true_eq, decide_eq_true_eq,
    beq_iff_eq, or_comm]

theorem headerText?_isSome_iff (value : List UInt8) :
    (headerText? value).isSome = true ↔ ∀ b ∈ value, b = 9 ∨ 32 ≤ b ∧ b < 127 := by
  have hall : value.all isHeaderText = true ↔ ∀ b ∈ value, b = 9 ∨ 32 ≤ b ∧ b < 127 := by
    rw [List.all_eq_true]
    exact forall₂_congr fun b _ => isHeaderText_iff b
  rw [headerText?, ← hall]
  split <;> simp [*]

/-- A header has a text if its first value can be read. -/
theorem header?_isSome_iff : (response.header? name).isSome = true ↔ response.Shows name := by
  rw [header?, Option.isSome_iff_exists]
  constructor
  · rintro ⟨text, htext⟩
    obtain ⟨value, hvalue, hread⟩ := Option.bind_eq_some_iff.mp htext
    refine ⟨value, (response.headerBytes?_eq_some_iff name value).mp hvalue, ?_⟩
    exact (headerText?_isSome_iff value).mp (Option.isSome_of_eq_some hread)
  · rintro ⟨value, hfirst, hbytes⟩
    obtain ⟨text, hread⟩ := Option.isSome_iff_exists.mp ((headerText?_isSome_iff value).mpr hbytes)
    have hvalue := (response.headerBytes?_eq_some_iff name value).mpr hfirst
    exact ⟨text, Option.bind_eq_some_iff.mpr ⟨value, hvalue, hread⟩⟩

end Response

namespace Assertion

/-- An assertion that a header is there, or is not, passes exactly if it agrees with whether the
first value of the header can be read. That is whether the response carries the header for those
headers only that can be read or are not carried: any other is missed where it is asserted, and let
pass where it is banned. -/
theorem header_presence_iff (name : String) (target : Option String) (responses : List Labelled)
    (value? : String → Option Json) (response : Response)
    (h : select target responses = .ok response) (header : String) :
    let passes (present : Bool) := (verdict
      { name, response := target, header := some { name := header, present := some present } }
      responses value?).passed
    (∀ present, passes present = true ↔ (present = true ↔ response.Shows header)) ∧
    (response.Shows header → response.Carries header) ∧
    ((∀ present, passes present = true ↔ (present = true ↔ response.Carries header)) ↔
      (response.Carries header → response.Shows header)) := by
  intro passes
  have hpasses (present : Bool) :
      passes present = true ↔ (present = true ↔ response.Shows header) := by
    let expected : HeaderExpectation := { name := header, present := some present }
    have hcheck := passed_header_iff { name, response := target } responses value? response h expected
    have hpresent := expected.check_present (response.header? header) value? present
    refine hcheck.trans ?_
    rw [hpresent, HeaderExpectation.checkPresent, require_eq_ok_iff,
      ← Response.header?_isSome_iff, beq_iff_eq, eq_comm, Bool.eq_iff_iff]
  have hcarries (hs : response.Shows header) : response.Carries header := by
    obtain ⟨value, hfirst, -⟩ := hs
    exact (response.carries_iff header).mpr ⟨value, hfirst⟩
  refine ⟨hpasses, hcarries, ?_, ?_⟩
  · intro htruth hc
    have hthere : passes true = true := (htruth true).mpr (iff_of_true rfl hc)
    exact ((hpasses true).mp hthere).mp rfl
  · intro hshows present
    have hsame : response.Shows header ↔ response.Carries header := ⟨hcarries, hshows⟩
    rw [hpasses, hsame]

def noted : Response where
  request := ⟨.get, "/note", [], none⟩
  url := "http://api.test/note"
  status := 200
  headers := [("x-note", [0xe2, 0x98, 0x83]), ("X-Note", [0x6f, 0x6b])]
  body := []

/-- The header is there, and still it is missed where it is asserted and passes where it is banned. -/
theorem header_presence_iff_noted :
    let passes (present : Bool) := (verdict
      { name := "note", header := some { name := "X-NOTE", present := some present } }
      [⟨"note", noted⟩] fun _ => none).passed
    noted.Carries "X-NOTE" ∧ ¬ noted.Shows "X-NOTE" ∧ passes true = false ∧ passes false = true := by
  intro passes
  obtain ⟨hpasses, -, -⟩ :=
    header_presence_iff "note" none [⟨"note", noted⟩] (fun _ => none) noted rfl "X-NOTE"
  have hunread : ¬ noted.Shows "X-NOTE" := by
    rw [← Response.header?_isSome_iff]
    decide +kernel
  have hmissed : passes true ≠ true := fun hp => hunread (((hpasses true).mp hp).mp rfl)
  have hbanned : passes false = true :=
    (hpasses false).mpr (iff_of_false Bool.false_ne_true hunread)
  exact ⟨⟨_, List.mem_cons_self, by decide +kernel⟩, hunread, Bool.eq_false_iff.mpr hmissed, hbanned⟩

end Assertion

end ApiTrial
