import ApiTrial.Proofs.TemplateJoined

/-! Segments written out and read back. A literal that opens nothing, not even together with the
marks behind it, is one piece of the text; a placeholder is one whatever blanks are put around its
key. So each segment is read back where it was written. -/
namespace ApiTrial.Template
open Text

/-- The texts that stand for a segment: that of a literal, and the key of a placeholder between the
marks, with any blanks around it. -/
inductive Spells : Segment → String → Prop
  | literal (text : String) : Spells (.literal text) text
  | placeholder (key before after : String) (hbefore : ∀ c ∈ before.toList, isBlank c = true)
      (hafter : ∀ c ∈ after.toList, isBlank c = true) :
      Spells (.placeholder key) ("\x7b\x7b" ++ before ++ key ++ after ++ "\x7d\x7d")

def Precedes : Segment → Segment → Prop
  | .literal _, .literal _ => False
  | .literal text, .placeholder _ => text.toList.getLast? ≠ some '\x7b'
  | .placeholder _, _ => True

/-- Segments that can be written out. -/
structure Writable (segments : List Segment) : Prop where
  literals : ∀ text, .literal text ∈ segments → text ≠ "" ∧ occurs "\x7b\x7b" text = false
  keys : ∀ key, .placeholder key ∈ segments → IsKey key.toList
  apart : segments.IsChain Precedes

theorem writable_of_cons (segment : Segment) (rest : List Segment)
    (h : Writable (segment :: rest)) : Writable rest where
  literals := fun text hm => h.literals text (List.mem_cons_of_mem _ hm)
  keys := fun key hm => h.keys key (List.mem_cons_of_mem _ hm)
  apart := h.apart.tail

section Plain
variable (text : List Char) (hplain : occursIn openMark text = false)
include hplain

/-- Behind plain text that joins them, the marks come first. -/
theorem firstAt_of_plain (after : List Char) (hj : Joins text (openMark ++ after)) :
    FirstAt openMark text after (text ++ openMark ++ after) := by
  induction text with
  | nil => exact firstAt_here openMark after
  | cons c text ih =>
    obtain ⟨hc, htext⟩ := not_occursIn_cons openMark text c hplain
    have hopens := not_opens_append text (openMark ++ after) c hc hj
    rw [← List.append_assoc] at hopens
    exact firstAt_cons openMark text after _ c hopens (ih htext (joins_of_append text _ [c] hj))

/-- Plain text in front of a hole, or of nothing, is a piece of its own. -/
theorem reads_plain_cons (rest : List Char) (slices : List Slice) (hne : text ≠ [])
    (hj : Joins text rest) (h : Reads rest slices)
    (hfirst : ∀ plain, slices.head? ≠ some (.plain plain)) :
    Reads (text ++ rest) (.plain text :: slices) := by
  have hfront : front text = [.plain text] := if_neg hne
  cases h with
  | plain _ hrest =>
    by_cases hr : rest = []
    · subst hr
      have hread := Reads.plain text hplain
      rw [hfront] at hread
      rwa [List.append_nil]
    · refine absurd ?_ (hfirst rest)
      rw [front, if_neg hr, List.head?_cons]
  | hole before inside after behind _ slices hopen hclose hkey hbehind =>
    by_cases hb : before = []
    · subst hb
      have hrest : rest = openMark ++ after := hopen.eq
      subst hrest
      have hread := Reads.hole text inside after behind _ slices
        (firstAt_of_plain text hplain after hj) hclose hkey hbehind
      rwa [hfront, List.append_assoc] at hread
    · refine absurd ?_ (hfirst before)
      rw [front, if_neg hb, List.singleton_append, List.head?_cons]

end Plain

/-- What is written behind a literal joins it, and does not begin with plain text. -/
theorem joins_of_spells (text : String) (segments : List Segment) (texts : List String)
    (hs : List.Forall₂ Spells segments texts)
    (hnext : ∀ second ∈ segments.head?, Precedes (.literal text) second) :
    Joins text.toList (texts.flatMap String.toList) := by
  rintro ⟨hlast, hhead⟩
  cases hs with
  | nil => cases hhead
  | @cons second _ _ _ hspells _ =>
    have hsecond := hnext second rfl
    cases second with
    | literal other => exact hsecond
    | placeholder key => exact hsecond hlast

/-- A text that segments are written to is read in pieces that stand for the segments. -/
theorem exists_reads_of_spells (segments : List Segment) (texts : List String)
    (hs : List.Forall₂ Spells segments texts) (h : Writable segments) :
    ∃ slices, Reads (texts.flatMap String.toList) slices ∧
      slices.map Slice.segment = segments := by
  induction hs with
  | nil => exact ⟨[], .plain [] rfl, rfl⟩
  | @cons segment text segments texts hspells hrest ih =>
    obtain ⟨slices, hreads, hsegments⟩ := ih (writable_of_cons segment segments h)
    rw [List.flatMap_cons]
    cases hspells with
    | literal text =>
      obtain ⟨hne, hplain⟩ := h.literals text List.mem_cons_self
      have hnext := (List.isChain_cons.mp h.apart).1
      have hfirst (plain : List Char) : slices.head? ≠ some (.plain plain) := by
        intro hp
        have hhead : segments.head? = some (.literal (String.ofList plain)) := by
          rw [← hsegments, List.head?_map, hp]
          rfl
        exact hnext _ hhead
      refine ⟨.plain text.toList :: slices, ?_, ?_⟩
      · exact reads_plain_cons text.toList hplain _ slices (by simpa using hne)
          (joins_of_spells text segments texts hrest hnext) hreads hfirst
      · rw [List.map_cons, Slice.segment, String.ofList_toList, hsegments]
    | placeholder key before after hbefore hafter =>
      have hkey := h.keys key List.mem_cons_self
      have hread := reads_hole before.toList key.toList after.toList hbefore hafter hkey _ slices
        hreads
      refine ⟨.hole (before.toList ++ key.toList ++ after.toList) :: slices, ?_, ?_⟩
      · simpa [openMark, closeMark, String.toList_append] using hread
      · rw [List.map_cons, Slice.segment, trimBlanks_key _ _ _ hbefore hafter hkey,
          String.ofList_toList, hsegments]

/-- Segments that are written out, each in any way that stands for it, are read back as they were,
and the keys of their placeholders are listed in order. -/
theorem parse_join_of_spells (segments : List Segment) (texts : List String)
    (h : Writable segments) (hs : List.Forall₂ Spells segments texts) :
    ∃ template, parse (String.join texts) = .ok template ∧ template.segments = segments ∧
      template.placeholders = segments.filterMap Segment.key? := by
  obtain ⟨slices, hreads, hsegments⟩ := exists_reads_of_spells segments texts hs h
  rw [← String.toList_join] at hreads
  refine ⟨_, (parse_eq_ok_iff _ _).mpr ⟨slices, hreads, rfl⟩, hsegments, ?_⟩
  rw [placeholders, hsegments]

def braced : List Segment :=
  [.placeholder "id", .literal "\x7d, é\x7b ", .placeholder "ticket-type.2",
    .literal "\x7d\x7d\x7b"]

theorem writable_braced : Writable braced where
  literals := by
    have hall : ∀ segment ∈ braced, ∀ text, segment = .literal text →
        text ≠ "" ∧ occurs "\x7b\x7b" text = false := by
      simp only [braced, List.forall_mem_cons, List.not_mem_nil, false_imp_iff, implies_true,
        and_true, Segment.literal.injEq, reduceCtorEq, forall_eq', true_and]
      decide
    exact fun text hm => hall _ hm text rfl
  keys := by
    have hall : ∀ segment ∈ braced, ∀ key, segment = .placeholder key → IsKey key.toList := by
      simp only [braced, List.forall_mem_cons, List.not_mem_nil, false_imp_iff, implies_true,
        and_true, Segment.placeholder.injEq, reduceCtorEq, forall_eq', true_and]
      exact ⟨isKey_of_all _ (by decide) (by decide), isKey_of_all _ (by decide) (by decide)⟩
    exact fun key hm => hall _ hm key rfl
  apart := by
    simp only [braced, List.isChain_cons_cons, List.isChain_singleton, Precedes, and_true, true_and]
    decide

/-- A no-break space and a line end around the first key make no difference. -/
theorem parse_join_of_spells_braced :
    ∃ template, parse (String.join ["\x7b\x7b\u00a0id\n\x7d\x7d", "\x7d, é\x7b ",
        "\x7b\x7bticket-type.2\x7d\x7d", "\x7d\x7d\x7b"]) = .ok template ∧
      template.segments = braced ∧ template.placeholders = ["id", "ticket-type.2"] :=
  parse_join_of_spells braced _ writable_braced <|
    .cons (.placeholder "id" "\u00a0" "\n" (List.all_eq_true.mp (by decide))
      (List.all_eq_true.mp (by decide))) <| .cons (.literal _) <|
    .cons (.placeholder "ticket-type.2" "" "" (List.forall_mem_nil _) (List.forall_mem_nil _)) <|
    .cons (.literal _) .nil

end ApiTrial.Template
