import ApiTrial.Proofs.BodyFilled

/-! The text of an object does not end in the text of another one. A reader that counts brackets
between strings is behind every value as deep as in front of it. In the middle of an object's text
it stands between strings, in one, or behind a backslash; and the text of another object that began
there would leave it deeper, or on the wrong side of a quote, or would be no escape. -/
namespace ApiTrial.Json

inductive Place where
  | between (depth : Nat)
  | within (depth : Nat)
  | escaped (depth : Nat)

namespace Place

def next : Place → Char → Option Place
  | between depth, c =>
    if c = '\x22' then some (within depth)
    else if c = '\\' then none
    else if c = '\x7b' ∨ c = '[' then some (between (depth + 1))
    else if c = '\x7d' ∨ c = ']' then some (between (depth - 1))
    else some (between depth)
  | within depth, c =>
    if c = '\x22' then some (between depth)
    else if c = '\\' then some (escaped depth)
    else some (within depth)
  | escaped depth, c => if c = '\x7b' then none else some (within depth)

def scan (place : Place) (text : List Char) : Option Place := text.foldlM next place

@[simp]
theorem scan_nil (place : Place) : place.scan [] = some place := rfl

theorem scan_cons (place : Place) (c : Char) (text : List Char) :
    place.scan (c :: text) = (place.next c).bind (scan · text) := by
  rw [scan, List.foldlM_cons]
  rfl

theorem scan_append (place : Place) (front behind : List Char) :
    place.scan (front ++ behind) = (place.scan front).bind (scan · behind) := by
  rw [scan, List.foldlM_append]
  rfl

/-- A reader that goes on behind a text that left it in its place. -/
theorem scan_append_of_stays (place : Place) (front behind : List Char)
    (h : place.scan front = some place) : place.scan (front ++ behind) = place.scan behind := by
  rw [scan_append, h, Option.bind_some]

def Stays (text : List Char) : Prop := ∀ depth, (between depth).scan text = some (between depth)

theorem stays_nil : Stays [] := fun _ => rfl

theorem stays_append (front behind : List Char) (hf : Stays front) (hb : Stays behind) :
    Stays (front ++ behind) := by
  intro depth
  rw [scan_append_of_stays _ _ _ (hf depth), hb depth]

theorem stays_cons (c : Char) (text : List Char)
    (hc : ∀ depth, (between depth).next c = some (between depth)) (ht : Stays text) :
    Stays (c :: text) := by
  intro depth
  rw [scan_cons, hc depth, Option.bind_some, ht depth]

/-- What stays may stand in brackets. -/
theorem stays_bracketed (opening closing : Char) (text : List Char)
    (ho : opening = '\x7b' ∨ opening = '[') (hc : closing = '\x7d' ∨ closing = ']')
    (ht : Stays text) : Stays (opening :: text ++ [closing]) := by
  intro depth
  have hopen : (between depth).next opening = some (between (depth + 1)) := by
    rcases ho with rfl | rfl <;> rfl
  have hclose : (between (depth + 1)).next closing = some (between depth) := by
    rcases hc with rfl | rfl <;> rfl
  rw [List.cons_append, scan_cons, hopen, Option.bind_some, scan_append_of_stays _ _ _ (ht _),
    scan_cons, hclose]
  rfl

end Place

section Numbers
open Place

def IsNumeral (c : Char) : Prop := c.isDigit = true ∨ c = '-' ∨ c = '+' ∨ c = '.' ∨ c = 'e'

instance (c : Char) : Decidable (IsNumeral c) :=
  inferInstanceAs (Decidable (c.isDigit = true ∨ c = '-' ∨ c = '+' ∨ c = '.' ∨ c = 'e'))

theorem stays_of_numerals (text : List Char) (h : ∀ c ∈ text, IsNumeral c) : Stays text := by
  induction text with
  | nil => exact stays_nil
  | cons c text ih =>
    obtain ⟨hc, htext⟩ := List.forall_mem_cons.mp h
    refine stays_cons c text ?_ (ih htext)
    have hnot (d : Char) (hd : ¬ IsNumeral d) : c ≠ d := fun he => hd (he ▸ hc)
    intro depth
    simp [next, hnot '\x22' (by decide), hnot '\\' (by decide), hnot '\x7b' (by decide),
      hnot '[' (by decide), hnot '\x7d' (by decide), hnot ']' (by decide)]

/-- For a closed text the check is one evaluation, without a search over all characters. -/
theorem numerals_of_all (text : List Char) (h : text.all (fun c => decide (IsNumeral c)) = true) :
    ∀ c ∈ text, IsNumeral c := by
  simpa using h

theorem numerals_writeNat (n : Nat) : ∀ c ∈ writeNat n, IsNumeral c := fun _ h =>
  Or.inl (Nat.isDigit_of_mem_toDigits (by decide) (by decide) h)

theorem numerals_writeInt (i : Int) : ∀ c ∈ writeInt i, IsNumeral c := by
  rw [writeInt]
  split_ifs
  · exact List.forall_mem_cons.mpr ⟨by decide, numerals_writeNat _⟩
  · exact numerals_writeNat _

theorem numerals_writePositional (digits : List Char) (order : Int)
    (h : ∀ c ∈ digits, IsNumeral c) : ∀ c ∈ writePositional digits order, IsNumeral c := by
  have hzeros (n : Nat) : ∀ c ∈ List.replicate n '0', IsNumeral c := by
    intro c hc
    rw [List.eq_of_mem_replicate hc]
    decide
  rw [writePositional]
  split_ifs <;> simp only [List.forall_mem_append]
  · exact ⟨⟨numerals_of_all _ (by decide), hzeros _⟩, h⟩
  · refine ⟨⟨⟨fun c hc => h c (List.mem_of_mem_take hc), hzeros _⟩,
      numerals_of_all _ (by decide)⟩, ?_⟩
    split_ifs
    · exact numerals_of_all _ (by decide)
    · exact fun c hc => h c (List.mem_of_mem_drop hc)

theorem numerals_writeScientific (digits : List Char) (order : Int)
    (h : ∀ c ∈ digits, IsNumeral c) : ∀ c ∈ writeScientific digits order, IsNumeral c := by
  simp only [writeScientific, List.forall_mem_append]
  refine ⟨⟨⟨fun c hc => h c (List.mem_of_mem_take hc), ?_⟩, ?_⟩, numerals_writeNat _⟩
  · split_ifs
    · exact numerals_of_all _ (by decide)
    · exact List.forall_mem_cons.mpr ⟨by decide, fun c hc => h c (List.mem_of_mem_drop hc)⟩
  · split_ifs <;> exact numerals_of_all _ (by decide)

/-- A number is written without quotes and brackets. -/
theorem numerals_writeFloat (x : Binary64) : ∀ c ∈ writeFloat x, IsNumeral c := by
  have hsign : ∀ c ∈ if x.negative then ['-'] else [], IsNumeral c := by
    split_ifs <;> exact numerals_of_all _ (by decide)
  have hkept (n : Nat) : ∀ c ∈ ((writeNat n).reverse.dropWhile (· == '0')).reverse,
      IsNumeral c := by
    intro c hc
    have hsub := List.dropWhile_sublist (· == '0') (l := (writeNat n).reverse)
    exact numerals_writeNat n c (List.mem_reverse.mp (hsub.subset (List.mem_reverse.mp hc)))
  simp only [writeFloat]
  by_cases hz : x.isZero = true
  · rw [if_pos hz]
    exact List.forall_mem_append.mpr ⟨hsign, numerals_of_all _ (by decide)⟩
  · rw [if_neg hz]
    refine List.forall_mem_append.mpr ⟨hsign, ?_⟩
    split_ifs
    · exact numerals_writePositional _ _ (hkept _)
    · exact numerals_writeScientific _ _ (hkept _)

end Numbers

section Values
open Place

theorem scan_escapeChar (depth : Nat) (c : Char) :
    (within depth).scan (escapeChar c) = some (within depth) := by
  have hdigit : ∀ n < 0x20, hexDigit (n / 16) ≠ '\x22' ∧ hexDigit (n / 16) ≠ '\\' ∧
      hexDigit (n % 16) ≠ '\x22' ∧ hexDigit (n % 16) ≠ '\\' := by decide
  rw [escapeChar]
  split_ifs with hquote hslash hb ht hn hf hr hcontrol
  iterate 7 next => rfl
  · obtain ⟨h1, h2, h3, h4⟩ := hdigit c.toNat hcontrol
    simp [scan_cons, next, h1, h2, h3, h4]
  · simp [scan_cons, next, hquote, hslash]

/-- A written string leaves a reader where it was. -/
theorem stays_writeString (text : String) : Stays (writeString text) := by
  have hchars (depth : Nat) (chars : List Char) :
      (within depth).scan (chars.flatMap escapeChar) = some (within depth) := by
    induction chars with
    | nil => rfl
    | cons c chars ih =>
      rw [List.flatMap_cons, scan_append_of_stays _ _ _ (scan_escapeChar depth c), ih]
  intro depth
  rw [writeString, List.cons_append, scan_cons]
  show (within depth).scan _ = _
  rw [scan_append_of_stays _ _ _ (hchars depth _)]
  rfl

mutual

/-- A written value leaves a reader where it was. -/
theorem stays_write : (value : Json) → Stays (write value)
  | null => fun _ => rfl
  | bool true => fun _ => rfl
  | bool false => fun _ => rfl
  | int i => stays_of_numerals _ (numerals_writeInt i)
  | float x => stays_of_numerals _ (numerals_writeFloat x)
  | str text => stays_writeString text
  | arr items => stays_bracketed '[' ']' _ (Or.inr rfl) (Or.inr rfl) (stays_writeItems items)
  | obj members =>
    stays_bracketed '\x7b' '\x7d' _ (Or.inl rfl) (Or.inl rfl) (stays_writeMembers members)

theorem stays_writeItems : (items : List Json) → Stays (writeItems items)
  | [] => stays_nil
  | [item] => stays_write item
  | item :: second :: rest =>
    stays_append _ _ (stays_write item)
      (stays_cons ',' _ (fun _ => rfl) (stays_writeItems (second :: rest)))

theorem stays_writeMembers : (members : List (String × Json)) → Stays (writeMembers members)
  | [] => stays_nil
  | [(key, value)] =>
    stays_append _ _ (stays_writeString key) (stays_cons ':' _ (fun _ => rfl) (stays_write value))
  | (key, value) :: second :: rest =>
    stays_append _ _
      (stays_append _ _ (stays_writeString key)
        (stays_cons ':' _ (fun _ => rfl) (stays_write value)))
      (stays_cons ',' _ (fun _ => rfl) (stays_writeMembers (second :: rest)))

end

end Values

section Suffixes
open Place

inductive Opposite : Place → Place → Prop
  | outer (i j : Nat) : Opposite (between i) (within j)
  | inner (i j : Nat) : Opposite (within i) (between j)

/-- Readers that take a text for opposite parts of strings stay opposite: at a quote both change
sides, and at a backslash one of them fails. -/
theorem opposite_next (p q p' q' : Place) (c : Char) (h : Opposite p q)
    (hp : p.next c = some p') (hq : q.next c = some q') : Opposite p' q' := by
  cases h with
  | outer i j =>
    simp only [next] at hp hq
    split_ifs at hp hq <;> cases hp <;> cases hq
    · exact .inner _ _
    · exact .outer _ _
    · exact .outer _ _
    · exact .outer _ _
  | inner i j =>
    simp only [next] at hp hq
    split_ifs at hp hq <;> cases hp <;> cases hq
    · exact .outer _ _
    · exact .inner _ _
    · exact .inner _ _
    · exact .inner _ _

theorem opposite_scan (p q p' q' : Place) (text : List Char) (h : Opposite p q)
    (hp : p.scan text = some p') (hq : q.scan text = some q') : Opposite p' q' := by
  induction text generalizing p q with
  | nil =>
    cases hp
    cases hq
    exact h
  | cons c text ih =>
    rw [scan_cons, Option.bind_eq_some_iff] at hp hq
    obtain ⟨p1, hp1, hp⟩ := hp
    obtain ⟨q1, hq1, hq⟩ := hq
    exact ih p1 q1 (opposite_next p q p1 q1 c h hp1 hq1) hp hq

/-- No part of an object's text that reaches up to its end is the text of another object. -/
theorem eq_nil_of_append_write (front : List Char) (members others : List (String × Json))
    (h : write (obj members) = front ++ write (obj others)) : front = [] := by
  cases front with
  | nil => rfl
  | cons c front =>
    exfalso
    rw [write, write, List.cons_append, List.cons_append, ← List.append_assoc] at h
    have hinner : writeMembers members = front ++ '\x7b' :: writeMembers others :=
      List.append_cancel_right (List.cons.inj h).2
    have hstays := stays_writeMembers members 0
    rw [hinner, scan_append, Option.bind_eq_some_iff] at hstays
    obtain ⟨place, -, hrest⟩ := hstays
    rw [scan_cons] at hrest
    -- Where the text begins, the brace is either one more bracket, or in a string, or escaped.
    cases place with
    | between depth =>
      have hdeep : (between depth).next '\x7b' = some (between (depth + 1)) := rfl
      rw [hdeep, Option.bind_some, stays_writeMembers] at hrest
      cases hrest
    | within depth =>
      have hkeep : (within depth).next '\x7b' = some (within depth) := rfl
      rw [hkeep, Option.bind_some] at hrest
      cases opposite_scan _ _ _ _ _ (.outer 0 depth) (stays_writeMembers others 0) hrest
    | escaped depth => cases hrest

end Suffixes

end ApiTrial.Json
