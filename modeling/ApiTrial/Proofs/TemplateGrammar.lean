import ApiTrial.Template
import ApiTrial.Text.Occurs
import Mathlib.Data.List.Chain

/-! What texts are templates. Reading goes from one first mark to the next; four equations say what
it does up to the next mark, and an induction over the holes of the text joins them. -/
namespace ApiTrial

namespace Text

structure FirstAt (mark before after text : List Char) : Prop where
  eq : text = before ++ mark ++ after
  first : ∀ front back, text = front ++ mark ++ back → before.length ≤ front.length

theorem firstAt_here (mark after : List Char) : FirstAt mark [] after (mark ++ after) where
  eq := rfl
  first := fun _ _ _ => Nat.zero_le _

theorem firstAt_cons (mark before after text : List Char) (c : Char)
    (hc : ¬ mark <+: c :: text) (h : FirstAt mark before after text) :
    FirstAt mark (c :: before) after (c :: text) where
  eq := congrArg (c :: ·) h.eq
  first := by
    intro front back he
    cases front with
    | nil => exact absurd ⟨back, he.symm⟩ hc
    | cons d front =>
      have hback := h.first front back (List.cons.inj he).2
      exact Nat.succ_le_succ hback

/-- A mark that is not at the front of the text comes first where it does behind the front. -/
theorem firstAt_of_cons (mark before after text : List Char) (c : Char)
    (h : FirstAt mark (c :: before) after text) :
    ∃ rest, text = c :: rest ∧ ¬ mark <+: text ∧ FirstAt mark before after rest := by
  refine ⟨before ++ mark ++ after, h.eq, ?_, rfl, ?_⟩
  · rintro ⟨back, he⟩
    have hle := h.first [] back he.symm
    exact absurd hle (Nat.not_succ_le_zero _)
  · intro front back he
    have htext : text = (c :: front) ++ mark ++ back := by
      rw [h.eq]
      exact congrArg (c :: ·) he
    have hle := h.first (c :: front) back htext
    exact Nat.le_of_succ_le_succ hle

theorem not_occursIn_cons (mark text : List Char) (c : Char)
    (h : occursIn mark (c :: text) = false) : ¬ mark <+: c :: text ∧ occursIn mark text = false := by
  rw [occursIn, Bool.or_eq_false_iff] at h
  refine ⟨?_, h.2⟩
  rw [← List.isPrefixOf_iff_prefix, h.1]
  exact Bool.false_ne_true

theorem exists_firstAt (mark text : List Char) (h : occursIn mark text = true) :
    ∃ before after, FirstAt mark before after text := by
  induction text with
  | nil =>
    obtain rfl : mark = [] := by simpa [occursIn] using h
    exact ⟨[], [], firstAt_here [] []⟩
  | cons c text ih =>
    by_cases hc : mark <+: c :: text
    · obtain ⟨after, ha⟩ := hc
      exact ⟨[], after, ha ▸ firstAt_here mark after⟩
    · have hrest : occursIn mark text = true := by
        simpa [occursIn, List.isPrefixOf_iff_prefix, hc] using h
      obtain ⟨before, after, hf⟩ := ih hrest
      exact ⟨c :: before, after, firstAt_cons mark before after text c hc hf⟩

/-- The mark does not occur in what is in front of its first occurrence. -/
theorem not_occursIn_of_firstAt (mark before after text : List Char) (hm : mark ≠ [])
    (h : FirstAt mark before after text) : occursIn mark before = false := by
  rw [← Bool.not_eq_true, occursIn_iff]
  rintro ⟨front, back, he⟩
  have htext : text = front ++ mark ++ (back ++ mark ++ after) := by
    rw [h.eq, he]
    simp only [List.append_assoc]
  have hle := h.first front _ htext
  have hpos := List.length_pos_iff.mpr hm
  rw [he, List.length_append, List.length_append] at hle
  omega

end Text

namespace Template
open Text

def openMark : List Char := ['\x7b', '\x7b']

def closeMark : List Char := ['\x7d', '\x7d']

def width : List Char → Nat
  | [] => 0
  | c :: rest => c.utf8Size + width rest

section Reading
variable (collected : List Char) (offset start : Nat)

theorem readFrom_skip (c : Char) (rest : List Char) (h : ¬ openMark <+: c :: rest) :
    readFrom none collected offset (c :: rest) =
      readFrom none (c :: collected) (offset + c.utf8Size) rest := by
  cases rest with
  | nil => rfl
  | cons d rest =>
    have hcd : ¬ (c = '\x7b' ∧ d = '\x7b') := by
      rintro ⟨rfl, rfl⟩
      exact h ⟨rest, rfl⟩
    rw [readFrom, if_neg hcd]

theorem readFrom_skip_inside (c : Char) (rest : List Char) (h : ¬ closeMark <+: c :: rest) :
    readFrom (some start) collected offset (c :: rest) =
      readFrom (some start) (c :: collected) (offset + c.utf8Size) rest := by
  cases rest with
  | nil => rfl
  | cons d rest =>
    have hcd : ¬ (c = '\x7d' ∧ d = '\x7d') := by
      rintro ⟨rfl, rfl⟩
      exact h ⟨rest, rfl⟩
    rw [readFrom, if_neg hcd]

/-- A text that opens nothing is literal. -/
theorem readFrom_plain (text : List Char) (h : occursIn openMark text = false) :
    readFrom none collected offset text = .ok (literal (text.reverse ++ collected)) := by
  induction text generalizing collected offset with
  | nil => rfl
  | cons c rest ih =>
    obtain ⟨hc, hrest⟩ := not_occursIn_cons openMark rest c h
    rw [readFrom_skip collected offset c rest hc, ih _ _ hrest, List.reverse_cons,
      List.append_assoc]
    rfl

/-- Inside a placeholder, a text that closes nothing is one that never ends. -/
theorem readFrom_unclosed (text : List Char) (h : occursIn closeMark text = false) :
    readFrom (some start) collected offset text = .error (start, .unclosed) := by
  induction text generalizing collected offset with
  | nil => rfl
  | cons c rest ih =>
    obtain ⟨hc, hrest⟩ := not_occursIn_cons closeMark rest c h
    rw [readFrom_skip_inside collected offset start c rest hc, ih _ _ hrest]

/-- Reading goes on inside the placeholder that is opened first. -/
theorem readFrom_opening (before after text : List Char) (h : FirstAt openMark before after text) :
    readFrom none collected offset text =
      (readFrom (some (offset + width before)) [] (offset + width before + 2) after).map
        (literal (before.reverse ++ collected) ++ ·) := by
  induction before generalizing collected offset text with
  | nil =>
    rw [h.eq]
    show readFrom none collected offset ('\x7b' :: '\x7b' :: after) = _
    rw [readFrom, if_pos ⟨rfl, rfl⟩]
    show _ = (readFrom (some offset) [] (offset + 2) after).map (literal collected ++ ·)
    cases readFrom (some offset) [] (offset + 2) after <;> rfl
  | cons c before ih =>
    obtain ⟨rest, rfl, hc, hrest⟩ := firstAt_of_cons _ _ _ _ _ h
    have hw : offset + c.utf8Size + width before = offset + width (c :: before) := by
      rw [width, Nat.add_assoc]
    rw [readFrom_skip collected offset c rest hc, ih _ _ rest hrest, hw, List.reverse_cons,
      List.append_assoc]
    rfl

/-- A placeholder ends where it is closed first, and reading goes on behind it. -/
theorem readFrom_closing (inside rest text : List Char) (h : FirstAt closeMark inside rest text) :
    readFrom (some start) collected offset text =
      match key (collected.reverse ++ inside) with
      | .error fault => .error (start, fault)
      | .ok key => (readFrom none [] (offset + width inside + 2) rest).map (.placeholder key :: ·) := by
  induction inside generalizing collected offset text with
  | nil =>
    rw [h.eq, List.append_nil]
    show readFrom (some start) collected offset ('\x7d' :: '\x7d' :: rest) = _
    rw [readFrom, if_pos ⟨rfl, rfl⟩]
    cases key collected.reverse with
    | error fault => rfl
    | ok key =>
      show _ = (readFrom none [] (offset + 2) rest).map (.placeholder key :: ·)
      cases readFrom none [] (offset + 2) rest <;> rfl
  | cons c inside ih =>
    obtain ⟨tail, rfl, hc, htail⟩ := firstAt_of_cons _ _ _ _ _ h
    have hw : offset + c.utf8Size + width inside = offset + width (c :: inside) := by
      rw [width, Nat.add_assoc]
    rw [readFrom_skip_inside collected offset start c tail hc, ih _ _ tail htail, hw,
      List.reverse_cons, List.append_assoc]
    rfl

end Reading

def IsKeyChar (c : Char) : Prop :=
  ('a' ≤ c ∧ c ≤ 'z') ∨ ('A' ≤ c ∧ c ≤ 'Z') ∨ ('0' ≤ c ∧ c ≤ '9') ∨ c = '_' ∨ c = '-' ∨ c = '.'

theorem isKeyChar_iff (c : Char) : isKeyChar c = true ↔ IsKeyChar c := by
  have hupper : c.isUpper = decide ('A'.val ≤ c.val ∧ c.val ≤ 'Z'.val) := rfl
  have hlower : c.isLower = (decide ('a'.val ≤ c.val) && decide (c.val ≤ 'z'.val)) := rfl
  have hdigit : c.isDigit = (decide ('0'.val ≤ c.val) && decide (c.val ≤ '9'.val)) := rfl
  have hletter : c.isAlphanum = (c.isUpper || c.isLower || c.isDigit) := rfl
  simp only [isKeyChar, IsKeyChar, hletter, hupper, hlower, hdigit, Bool.or_eq_true,
    Bool.and_eq_true, decide_eq_true_eq, beq_iff_eq, Char.le_def]
  tauto

/-- A key is not empty, and is made of letters, digits and a few signs. -/
def IsKey (text : List Char) : Prop := text ≠ [] ∧ ∀ c ∈ text, IsKeyChar c

theorem key_eq_ok_iff (inside : List Char) (found : String) :
    key inside = .ok found ↔
      IsKey (trimBlanks inside) ∧ found = String.ofList (trimBlanks inside) := by
  simp only [key, IsKey, ← isKeyChar_iff, ← List.all_eq_true, List.isEmpty_iff]
  by_cases he : trimBlanks inside = []
  · simp [he]
  · by_cases hall : (trimBlanks inside).all isKeyChar = true
    · simp [he, hall, eq_comm]
    · simp [he, hall]

inductive Slice where
  | plain (text : List Char)
  | hole (inside : List Char)

namespace Slice

def text : Slice → List Char
  | plain text => text
  | hole inside => openMark ++ inside ++ closeMark

def segment : Slice → Segment
  | plain text => .literal (String.ofList text)
  | hole inside => .placeholder (String.ofList (trimBlanks inside))

end Slice

def front (text : List Char) : List Slice := if text = [] then [] else [.plain text]

/-- The pieces of a text from left to right: each first mark that opens a hole is followed by one
that closes it, and the text up to the first of these is a key with blanks around it. -/
inductive Reads : List Char → List Slice → Prop
  | plain (text : List Char) (h : occursIn openMark text = false) : Reads text (front text)
  | hole (before inside after rest text : List Char) (slices : List Slice)
      (hopen : FirstAt openMark before after text) (hclose : FirstAt closeMark inside rest after)
      (hkey : IsKey (trimBlanks inside)) (hrest : Reads rest slices) :
      Reads text (front before ++ .hole inside :: slices)

theorem segments_front (text : List Char) :
    (front text).map Slice.segment = literal text.reverse := by
  rw [front, literal]
  by_cases h : text = []
  · simp [h]
  · simp [h, Slice.segment]

theorem flatten_front (text : List Char) : ((front text).map Slice.text).flatten = text := by
  rw [front]
  by_cases h : text = []
  · simp [h]
  · simp [h, Slice.text]

theorem readFrom_of_reads (text : List Char) (slices : List Slice) (offset : Nat)
    (h : Reads text slices) : readFrom none [] offset text = .ok (slices.map Slice.segment) := by
  induction h generalizing offset with
  | plain text h =>
    rw [readFrom_plain [] offset text h, List.append_nil, segments_front]
  | hole before inside after rest text slices hopen hclose hkey hrest ih =>
    have hk := (key_eq_ok_iff inside _).mpr ⟨hkey, rfl⟩
    rw [readFrom_opening [] offset before after text hopen,
      readFrom_closing [] _ _ inside rest after hclose, List.reverse_nil, List.nil_append, hk]
    simp only [ih, Except.map, List.append_nil, List.map_append, List.map_cons, segments_front,
      Slice.segment]

/-- What is accepted has been read by the grammar. -/
theorem reads_of_readFrom (text : List Char) (offset : Nat) (segments : List Segment)
    (h : readFrom none [] offset text = .ok segments) :
    ∃ slices, Reads text slices ∧ segments = slices.map Slice.segment := by
  -- Each hole leaves a shorter text behind it.
  induction hn : text.length using Nat.strong_induction_on generalizing text offset segments with
  | _ n ih =>
    cases ho : occursIn openMark text with
    | false =>
      rw [readFrom_plain [] offset text ho, List.append_nil] at h
      exact ⟨front text, .plain text ho, (Except.ok.inj h).symm.trans (segments_front text).symm⟩
    | true =>
      obtain ⟨before, after, hopen⟩ := exists_firstAt openMark text ho
      rw [readFrom_opening [] offset before after text hopen] at h
      cases hc : occursIn closeMark after with
      | false =>
        rw [readFrom_unclosed [] _ _ after hc] at h
        cases h
      | true =>
        obtain ⟨inside, rest, hclose⟩ := exists_firstAt closeMark after hc
        rw [readFrom_closing [] _ _ inside rest after hclose, List.reverse_nil,
          List.nil_append] at h
        cases hk : key inside with
        | error fault =>
          rw [hk] at h
          cases h
        | ok found =>
          obtain ⟨hkey, rfl⟩ := (key_eq_ok_iff inside found).mp hk
          rw [hk] at h
          have hlt : rest.length < n := by
            rw [← hn, hopen.eq, hclose.eq]
            simp only [List.length_append, openMark, closeMark, List.length_cons]
            omega
          cases hr : readFrom none [] (offset + width before + 2 + width inside + 2) rest with
          | error fault =>
            simp only [hr] at h
            cases h
          | ok behind =>
            simp only [hr, List.append_nil] at h
            obtain ⟨slices, hreads, rfl⟩ := ih rest.length hlt rest _ behind hr rfl
            refine ⟨_, .hole before inside after rest text slices hopen hclose hkey hreads, ?_⟩
            simp only [← Except.ok.inj h, List.map_append, List.map_cons, segments_front,
              Slice.segment]

/-- The pieces are the text: nothing is left out and nothing is there twice. -/
theorem flatten_of_reads (text : List Char) (slices : List Slice) (h : Reads text slices) :
    (slices.map Slice.text).flatten = text := by
  induction h with
  | plain text h => exact flatten_front text
  | hole before inside after rest text slices hopen hclose hkey hrest ih =>
    have hhole : text = before ++ (openMark ++ inside ++ closeMark ++ rest) := by
      rw [hopen.eq, hclose.eq]
      simp only [List.append_assoc]
    rw [List.map_append, List.flatten_append, flatten_front, List.map_cons, List.flatten_cons, ih,
      Slice.text, ← hhole]

theorem plain_of_mem_front (text : List Char) (h : occursIn openMark text = false) (piece : Slice)
    (hm : piece ∈ front text) : ∃ plain, piece = .plain plain ∧ plain ≠ [] ∧
      occursIn openMark plain = false := by
  rw [front] at hm
  by_cases hn : text = []
  · simp [hn] at hm
  · rw [if_neg hn, List.mem_singleton] at hm
    exact ⟨text, hm, hn, h⟩

/-- A plain piece is not empty and opens nothing. -/
theorem plain_of_reads (text : List Char) (slices : List Slice) (h : Reads text slices)
    (plain : List Char) (hm : .plain plain ∈ slices) :
    plain ≠ [] ∧ occursIn openMark plain = false := by
  induction h with
  | plain text h =>
    obtain ⟨_, ⟨⟩, hplain⟩ := plain_of_mem_front text h _ hm
    exact hplain
  | hole before inside after rest text slices hopen hclose hkey hrest ih =>
    rcases List.mem_append.mp hm with hm | hm
    · have hbefore := not_occursIn_of_firstAt openMark before after text nofun hopen
      obtain ⟨_, ⟨⟩, hplain⟩ := plain_of_mem_front before hbefore _ hm
      exact hplain
    · rcases List.mem_cons.mp hm with hm | hm
      · cases hm
      · exact ih hm

/-- Of two neighbouring pieces one is a hole. -/
theorem apart_of_reads (text : List Char) (slices : List Slice) (h : Reads text slices) :
    slices.IsChain fun first second =>
      first.segment.key?.isSome = true ∨ second.segment.key?.isSome = true := by
  induction h with
  | plain text h =>
    rw [front]
    by_cases hn : text = [] <;> simp [hn]
  | hole before inside after rest text slices hopen hclose hkey hrest ih =>
    rw [List.isChain_split]
    constructor
    · rw [front]
      by_cases hn : before = [] <;> simp [hn, Slice.segment, Segment.key?]
    · cases slices with
      | nil => exact List.isChain_singleton _
      | cons second slices => exact List.isChain_cons_cons.mpr ⟨Or.inl rfl, ih⟩

/-- A text is parsed to the segments that its pieces are read as. -/
theorem parse_eq_ok_iff (source : String) (template : Template) :
    parse source = .ok template ↔
      ∃ slices, Reads source.toList slices ∧ template = ⟨source, slices.map Slice.segment⟩ := by
  constructor
  · intro h
    rw [parse] at h
    cases hr : readFrom none [] 0 source.toList with
    | error fault =>
      rw [hr] at h
      cases h
    | ok segments =>
      rw [hr] at h
      cases h
      obtain ⟨slices, hreads, rfl⟩ := reads_of_readFrom source.toList 0 segments hr
      exact ⟨slices, hreads, rfl⟩
  · rintro ⟨slices, hreads, rfl⟩
    rw [parse, readFrom_of_reads source.toList slices 0 hreads]

/-- The templates are the texts of the grammar, and reading one loses nothing: its segments stand for
the pieces of the text in order, its literals are as long as they can be, and its keys are what
stands between the marks without the blanks around it. -/
theorem parse_accepts_grammar (source : String) :
    ((∃ template, parse source = .ok template) ↔ ∃ slices, Reads source.toList slices) ∧
    ∀ template, parse source = .ok template → ∃ slices, Reads source.toList slices ∧
      template.segments = slices.map Slice.segment ∧
      String.ofList (slices.map Slice.text).flatten = source ∧
      (∀ text, .literal text ∈ template.segments →
        text ≠ "" ∧ Text.occurs "\x7b\x7b" text = false) ∧
      template.segments.IsChain fun first second =>
        first.key?.isSome = true ∨ second.key?.isSome = true := by
  have hread (template : Template) (h : parse source = .ok template) :
      ∃ slices, Reads source.toList slices ∧ template.segments = slices.map Slice.segment := by
    rw [parse] at h
    cases hr : readFrom none [] 0 source.toList with
    | error fault =>
      rw [hr] at h
      cases h
    | ok segments =>
      rw [hr] at h
      cases h
      exact reads_of_readFrom source.toList 0 segments hr
  refine ⟨⟨?_, ?_⟩, ?_⟩
  · rintro ⟨template, h⟩
    obtain ⟨slices, hreads, -⟩ := hread template h
    exact ⟨slices, hreads⟩
  · rintro ⟨slices, hreads⟩
    exact ⟨⟨source, slices.map Slice.segment⟩, by
      rw [parse, readFrom_of_reads source.toList slices 0 hreads]⟩
  · intro template h
    obtain ⟨slices, hreads, hsegments⟩ := hread template h
    refine ⟨slices, hreads, hsegments, ?_, ?_, ?_⟩
    · rw [flatten_of_reads source.toList slices hreads, String.ofList_toList]
    · intro text hm
      rw [hsegments, List.mem_map] at hm
      obtain ⟨piece, hp, he⟩ := hm
      cases piece with
      | hole inside => cases he
      | plain plain =>
        cases he
        obtain ⟨hne, hopens⟩ := plain_of_reads source.toList slices hreads plain hp
        refine ⟨fun hempty => hne (by simpa using hempty), ?_⟩
        show occursIn openMark (String.ofList plain).toList = false
        rw [String.toList_ofList]
        exact hopens
    · rw [hsegments, List.isChain_map]
      exact apart_of_reads source.toList slices hreads

def nested : String := "\x7b\"a\": \x7b\"b\": \"\x7b\x7b event_id \x7d\x7d\"\x7d\x7d"

/-- Braces that close nothing are literal. -/
theorem parse_accepts_grammar_nested :
    ∃ slices, Reads nested.toList slices ∧ slices.map Slice.segment =
      [.literal "\x7b\"a\": \x7b\"b\": \"", .placeholder "event_id",
        .literal "\"\x7d\x7d"] := by
  have hparse : parse nested = .ok ⟨nested, [.literal "\x7b\"a\": \x7b\"b\": \"",
      .placeholder "event_id", .literal "\"\x7d\x7d"]⟩ := by decide +kernel
  obtain ⟨slices, hreads, hsegments, -⟩ := (parse_accepts_grammar nested).2 _ hparse
  exact ⟨slices, hreads, hsegments.symm⟩

end Template
end ApiTrial
