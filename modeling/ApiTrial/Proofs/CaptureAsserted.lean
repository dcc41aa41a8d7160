import ApiTrial.Proofs.HeaderPresence
import ApiTrial.Proofs.PlaceholderExpected
import ApiTrial.Proofs.StoreRemoval

/-! Captures asserted back. What a step captures of a response is what the response holds, so an
assertion that expects the captured value where it was captured holds of that response. If there was
nothing to capture, the variable has been unset and the assertion cannot be resolved. -/
namespace ApiTrial

namespace Response

theorem Source.ofText_header (header : String) :
    Source.ofText ("header:" ++ header) = .header (Text.trim header) := by
  have hprefix : "header:".toList.isPrefixOf ("header:" ++ header).toList = true := by
    rw [List.isPrefixOf_iff_prefix, String.toList_append]
    exact List.prefix_append _ _
  have hafter : afterMark? "header:".toList ("header:" ++ header).toList = some header.toList := by
    rw [afterMark?, hprefix, if_pos rfl, String.toList_append, List.drop_left]
  rw [ofText, hafter]
  rfl

theorem Source.ofText_pointer (text : String) (hs : text ≠ "status")
    (hh : ¬ "header:".toList <+: text.toList) : Source.ofText text = .pointer text := by
  have hafter : afterMark? "header:".toList text.toList = none := by
    rw [afterMark?, if_neg]
    rwa [List.isPrefixOf_iff_prefix]
  rw [ofText, hafter]
  exact if_neg hs

end Response

namespace Assertion
open Scenario

/-- A step captures a value of a response under a key, whatever the key held before. Then the value
expected of that response through the placeholder of the key is found where it was captured, in the
body or in a header, exactly if there is one. -/
theorem capture_asserted_back (name : String) (target : Option String) (responses : List Labelled)
    (response : Response) (h : select target responses = .ok response) (store : Store)
    (scope : ScopeId) (hs : scope < store.length) (step : RequestStep)
    (hn : step.capture.keys.Nodup) (key : String) (hk : Template.IsKey key.toList) :
    let value? := (captureAll scope response step.capture store).lookup scope
    let back := Template.placeholderText key
    (∀ pointer, step.capture.get? key = some pointer → pointer ≠ "status" →
      ¬ "header:".toList <+: pointer.toList →
      ((verdict { name, response := target, json := some { pointer, equals := some (.str back) } }
        responses value?).passed = true ↔ ∃ value, response.pointer? pointer = some value)) ∧
    ∀ header, step.capture.get? key = some ("header:" ++ header) → Text.trim header = header →
      ((verdict
        { name, response := target, header := some { name := header, equals := some back } }
        responses value?).passed = true ↔ response.Shows header) := by
  intro value? back
  have hvalue (source : String) (hc : step.capture.get? key = some source) :
      value? key = response.capture? source := by
    have hlookup := lookup_captureAll scope response step.capture store hs hn key
    rw [hc] at hlookup
    exact hlookup
  constructor
  · intro pointer hc hstatus hheader
    have hread : value? key = response.pointer? pointer := by
      rw [hvalue pointer hc, Response.capture?,
        Response.Source.ofText_pointer pointer hstatus hheader]
      rfl
    rw [passed_jsonEquals_iff name target responses value? pointer _ response h,
      JsonExpectation.checkEquals_placeholder_iff value? key hk, hread]
    constructor
    · rintro ⟨value, -, hfound, -⟩
      exact ⟨value, hfound⟩
    · rintro ⟨value, hfound⟩
      exact ⟨value, value, hfound, hfound, rfl⟩
  · intro header hc htrim
    have hread : value? key = (response.header? header).map Json.str := by
      rw [hvalue _ hc, Response.capture?, Response.Source.ofText_header, htrim]
      rfl
    have hcheck := passed_header_iff { name, response := target } responses value? response h
      { name := header, equals := some back }
    refine hcheck.trans ?_
    refine (HeaderExpectation.checkEquals_placeholder_iff value? key hk _ _).trans ?_
    rw [hread, ← Response.header?_isSome_iff]
    cases response.header? header with
    | none => simp
    | some text => simp [Json.splice]

def remarked : Response where
  request := ⟨.get, "/order", [], none⟩
  url := "http://api.test/order"
  status := 200
  headers := [("etag", [0x61, 0x62])]
  body := [0x7b, 0x22, 0x6e, 0x6f, 0x74, 0x65, 0x22, 0x3a, 0x22, 0x7b, 0x7b, 0x69, 0x64, 0x7d, 0x7d,
    0x22, 0x7d]

/-- The captured text looks like a placeholder, and a key captured from nowhere is set in the parent
of the scope: the first is found again where it was, and the second is not expected any more. -/
theorem capture_asserted_back_remarked :
    let step : RequestStep :=
      { request := .new .get "/order"
        capture := [("gone", "/gone"), ("note", "/note"), ("tag", "header:ETag")] }
    let store := Store.after [] [.addRoot, .set 0 "gone" (.str "stale"), .isolate 0 "lane"]
    let value? := (captureAll 1 remarked step.capture store).lookup 1
    let back := Template.placeholderText
    let found (pointer key : String) := (verdict
      { name := "back", json := some { pointer, equals := some (.str (back key)) } }
      [⟨"order", remarked⟩] value?).passed
    let tagged := (verdict
      { name := "back", header := some { name := "ETag", equals := some (back "tag") } }
      [⟨"order", remarked⟩] value?).passed
    found "/note" "note" = true ∧ found "/gone" "gone" = false ∧ tagged = true := by
  intro step store value? back found tagged
  have hkey (key : String) (hne : key.toList ≠ []) (ha : key.toList.all Template.isKeyChar = true) :
      Template.IsKey key.toList := Template.isKey_of_all _ hne ha
  have hback := capture_asserted_back "back" none [⟨"order", remarked⟩] remarked rfl store 1
    (by decide) step (by decide)
  have hnote : (remarked.pointer? "/note").isSome = true := by decide +kernel
  have hgone : remarked.pointer? "/gone" = none := by decide +kernel
  have htag : remarked.Shows "ETag" := by
    rw [← Response.header?_isSome_iff]
    decide +kernel
  refine ⟨?_, ?_, ?_⟩
  · obtain ⟨hjson, -⟩ := hback "note" (hkey _ (by decide) (by decide))
    exact (hjson "/note" rfl (by decide) (by decide)).mpr (Option.isSome_iff_exists.mp hnote)
  · obtain ⟨hjson, -⟩ := hback "gone" (hkey _ (by decide) (by decide))
    rw [Bool.eq_false_iff]
    intro hfound
    obtain ⟨value, hvalue⟩ := (hjson "/gone" rfl (by decide) (by decide)).mp hfound
    cases hgone.symm.trans hvalue
  · obtain ⟨-, hheader⟩ := hback "tag" (hkey _ (by decide) (by decide))
    exact (hheader "ETag" rfl (by decide)).mpr htag

end Assertion

end ApiTrial
