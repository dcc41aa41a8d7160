import ApiTrial.Proofs.TemplateFilled

/-! Templates put one behind the other. What is read in the first text does not depend on what
stands behind it, unless two braces meet at the seam; so the pieces of the whole are those of the
two texts, and it is filled in as they are. -/
namespace ApiTrial

namespace Text

/-- The first mark of a text stays the first, whatever is put behind the text. -/
theorem firstAt_append (mark before after text back : List Char)
    (h : FirstAt mark before after text) : FirstAt mark before (after ++ back) (text ++ back) where
  eq := by
    rw [h.eq]
    simp only [List.append_assoc]
  first := by
    intro front rest he
    by_contra hlt
    have hle : (front ++ mark).length ≤ text.length := by
      rw [h.eq]
      simp only [List.length_append]
      omega
    obtain ⟨tail, ht⟩ := List.prefix_of_prefix_length_le ⟨rest, he.symm⟩ ⟨back, rfl⟩ hle
    exact hlt (h.first front tail ht.symm)

/-- A mark comes first behind a text without the character that it begins with. -/
theorem firstAt_of_not_mem (c : Char) (mark before after : List Char) (h : c ∉ before) :
    FirstAt (c :: mark) before after (before ++ c :: mark ++ after) := by
  induction before with
  | nil => exact firstAt_here (c :: mark) after
  | cons d before ih =>
    rw [List.mem_cons, not_or] at h
    refine firstAt_cons _ before after _ d ?_ (ih h.2)
    rintro ⟨rest, he⟩
    exact h.1 (List.cons.inj he).1

/-- A mark is first in one place only. -/
theorem firstAt_unique (mark before after before' after' text : List Char)
    (h : FirstAt mark before after text) (h' : FirstAt mark before' after' text) :
    before = before' ∧ after = after' := by
  have hlength : before.length = before'.length :=
    le_antisymm (h.first before' after' h'.eq) (h'.first before after h.eq)
  have htext := h.eq.symm.trans h'.eq
  rw [List.append_assoc, List.append_assoc] at htext
  obtain ⟨hb, ha⟩ := List.append_inj htext hlength
  exact ⟨hb, List.append_cancel_left ha⟩

/-- Blanks in front of a text are dropped up to its first character. -/
theorem dropWhile_padded (side text rest : List Char) (hside : ∀ c ∈ side, isBlank c = true)
    (hne : text ≠ []) (htext : ∀ c ∈ text, isBlank c = false) :
    (side ++ (text ++ rest)).dropWhile isBlank = text ++ rest := by
  rw [List.dropWhile_append_of_pos hside]
  obtain ⟨c, text, rfl⟩ := List.exists_cons_of_ne_nil hne
  have hc := htext c List.mem_cons_self
  rw [List.cons_append, List.dropWhile_cons_of_neg (by simp [hc])]

/-- A text without blanks is what is left when the blanks around it are trimmed. -/
theorem trimBlanks_padded (before text after : List Char)
    (hbefore : ∀ c ∈ before, isBlank c = true) (hafter : ∀ c ∈ after, isBlank c = true)
    (hne : text ≠ []) (htext : ∀ c ∈ text, isBlank c = false) :
    trimBlanks (before ++ text ++ after) = text := by
  have hback := dropWhile_padded after.reverse text.reverse [] (by simpa using hafter)
    (by simpa using hne) (by simpa using htext)
  rw [List.append_nil] at hback
  rw [trimBlanks, List.append_assoc, dropWhile_padded before text after hbefore hne htext,
    List.reverse_append, hback, List.reverse_reverse]

end Text

namespace Template
open Text

/-- Two texts without a brace at the end of the first that meets one at the front of the second. -/
def Joins (front back : List Char) : Prop :=
  ¬ (front.getLast? = some '\x7b' ∧ back.head? = some '\x7b')

instance (front back : List Char) : Decidable (Joins front back) :=
  inferInstanceAs (Decidable (¬ (_ ∧ _)))

section Seam
variable (front back : List Char)

/-- Only the end of the first text matters at the seam. -/
theorem joins_of_append (before : List Char) (h : Joins (before ++ front) back) :
    Joins front back := by
  rintro ⟨hlast, hhead⟩
  refine h ⟨?_, hhead⟩
  rw [List.getLast?_append, hlast, Option.some_or]

theorem not_opens_append (c : Char) (hc : ¬ openMark <+: c :: front)
    (hj : Joins (c :: front) back) : ¬ openMark <+: c :: (front ++ back) := by
  rintro ⟨after, he⟩
  obtain ⟨hfirst, hrest⟩ := List.cons.inj he
  subst hfirst
  cases front with
  | nil =>
    rw [List.nil_append] at hrest
    exact hj ⟨rfl, hrest ▸ rfl⟩
  | cons d front =>
    have hsecond := (List.cons.inj hrest).1
    subst hsecond
    exact hc ⟨front, rfl⟩

end Seam

section Keys

/-- No blank stands in a key. -/
theorem not_isBlank_of_isKeyChar (c : Char) (h : IsKeyChar c) : isBlank c = false := by
  have hcode : c.toNat = c.val.toNat := rfl
  simp only [IsKeyChar, Char.le_def, UInt32.le_iff_toNat_le] at h
  rw [isBlank, inRanges]
  rcases h with h | h | h | rfl | rfl | rfl
  iterate 3 next =>
    simp only [Char.reduceVal, UInt32.reduceToNat] at h
    simp [blankRanges]
    omega
  all_goals decide

/-- For a closed text the check is one evaluation, without a search over all characters. -/
theorem isKey_of_all (text : List Char) (hne : text ≠ []) (h : text.all isKeyChar = true) :
    IsKey text :=
  ⟨hne, fun c hc => (isKeyChar_iff c).mp (List.all_eq_true.mp h c hc)⟩

/-- No brace stands in a key, either. -/
theorem brace_not_mem_key (key : List Char) (hkey : IsKey key) : '\x7d' ∉ key := fun hm =>
  absurd (hkey.2 _ hm) (by unfold IsKeyChar; decide)

theorem trimBlanks_of_isKey (key : List Char) (hkey : IsKey key) : trimBlanks key = key := by
  have h := trimBlanks_padded [] key [] (List.forall_mem_nil _) (List.forall_mem_nil _) hkey.1
    fun c hc => not_isBlank_of_isKeyChar c (hkey.2 c hc)
  rwa [List.nil_append, List.append_nil] at h

variable (before key after : List Char) (hbefore : ∀ c ∈ before, isBlank c = true)
  (hafter : ∀ c ∈ after, isBlank c = true) (hkey : IsKey key)
include hbefore hafter hkey

theorem trimBlanks_key : trimBlanks (before ++ key ++ after) = key :=
  trimBlanks_padded before key after hbefore hafter hkey.1 fun c hc =>
    not_isBlank_of_isKeyChar c (hkey.2 c hc)

/-- A key between the marks is read as a hole, with any blanks around it. -/
theorem reads_hole (rest : List Char) (slices : List Slice) (h : Reads rest slices) :
    Reads (openMark ++ (before ++ key ++ after ++ closeMark ++ rest))
      (.hole (before ++ key ++ after) :: slices) := by
  have htrim := trimBlanks_key before key after hbefore hafter hkey
  have hblank (side : List Char) (hside : ∀ c ∈ side, isBlank c = true) : '\x7d' ∉ side :=
    fun hm => absurd (hside _ hm) (by decide)
  have hinside := brace_not_mem_key key hkey
  have hclose : '\x7d' ∉ before ++ key ++ after := by
    simp only [List.mem_append, not_or]
    exact ⟨⟨hblank before hbefore, hinside⟩, hblank after hafter⟩
  refine .hole [] _ _ rest _ slices (firstAt_here openMark _)
    (firstAt_of_not_mem '\x7d' ['\x7d'] _ rest hclose) ?_ h
  rw [htrim]
  exact hkey

end Keys

section Joining

/-- The text of the first segments, and behind it that of the others. -/
theorem renderSegments_append (value? : String → Option Json) (front back : List Segment) :
    renderSegments value? (front ++ back) =
      (do return (← renderSegments value? front) ++ (← renderSegments value? back)) := by
  induction front with
  | nil =>
    cases h : renderSegments value? back <;>
      simp [renderSegments, h, bind, Except.bind, pure, Except.pure]
  | cons segment front ih =>
    cases segment with
    | literal text =>
      rw [List.cons_append, renderSegments, renderSegments, ih]
      cases renderSegments value? front <;> cases renderSegments value? back <;>
        simp [bind, Except.bind, pure, Except.pure, Except.map, String.append_assoc]
    | placeholder key =>
      rw [List.cons_append, renderSegments, renderSegments, ih]
      cases value? key with
      | none => rfl
      | some value =>
        cases renderSegments value? front <;> cases renderSegments value? back <;>
          simp [bind, Except.bind, pure, Except.pure, Except.map, String.append_assoc]

/-- Plain text goes before the first piece of what stands behind it. -/
theorem exists_reads_plain_append (front back : List Char) (slices : List Slice)
    (hplain : occursIn openMark front = false) (hj : Joins front back) (h : Reads back slices) :
    ∃ slices', Reads (front ++ back) slices' ∧ ∀ value?,
      renderSegments value? (slices'.map Slice.segment) =
        (renderSegments value? (slices.map Slice.segment)).map (String.ofList front ++ ·) := by
  induction front with
  | nil =>
    refine ⟨slices, h, fun value? => ?_⟩
    cases renderSegments value? (slices.map Slice.segment) <;> simp [Except.map]
  | cons c front ih =>
    obtain ⟨hc, hfront⟩ := not_occursIn_cons openMark front c hplain
    obtain ⟨slices', hreads, hr⟩ := ih hfront (joins_of_append front back [c] hj)
    obtain ⟨slices'', hreads', hr'⟩ :=
      exists_reads_cons c _ slices' (not_opens_append front back c hc hj) hreads
    refine ⟨slices'', hreads', fun value? => ?_⟩
    rw [hr', hr]
    cases renderSegments value? (slices.map Slice.segment) <;>
      simp [Except.map, String.ofList_cons, String.append_assoc]

/-- Two texts that are read are read as one where they join, and the whole is filled in as they are.
The induction is on the holes of the first text; plain text is left at its end. -/
theorem exists_reads_append (front back : List Char) (fronts backs : List Slice)
    (hf : Reads front fronts) (hb : Reads back backs) (hj : Joins front back) :
    ∃ slices, Reads (front ++ back) slices ∧ ∀ value?,
      renderSegments value? (slices.map Slice.segment) =
        (do return (← renderSegments value? (fronts.map Slice.segment)) ++
          (← renderSegments value? (backs.map Slice.segment))) := by
  induction hf with
  | plain text hplain =>
    obtain ⟨slices, hreads, hr⟩ := exists_reads_plain_append text back backs hplain hj hb
    refine ⟨slices, hreads, fun value? => ?_⟩
    have hfront := renderSegments_front value? text (backs.map Slice.segment)
    rw [hr, ← hfront, renderSegments_append]
  | hole before inside after rest text slices hopen hclose hkey hrest ih =>
    have htail : Joins rest back := by
      refine joins_of_append rest back (before ++ openMark ++ inside ++ closeMark) ?_
      rw [hopen.eq, hclose.eq] at hj
      simpa only [List.append_assoc] using hj
    obtain ⟨joined, hreads, hr⟩ := ih htail
    refine ⟨_, .hole before inside (after ++ back) (rest ++ back) (text ++ back) joined
      (firstAt_append openMark before after text back hopen)
      (firstAt_append closeMark inside rest after back hclose) hkey hreads, fun value? => ?_⟩
    have hhole (tail : List Slice) :
        renderSegments value? ((Template.front before ++ .hole inside :: tail).map Slice.segment) =
          (do return (← renderSegments value?
              ((Template.front before ++ [Slice.hole inside]).map Slice.segment)) ++
            (← renderSegments value? (tail.map Slice.segment))) := by
      rw [List.append_cons, List.map_append, renderSegments_append]
    rw [hhole joined, hhole slices, hr]
    simp only [bind_assoc, pure_bind, String.append_assoc]

/-- Texts that can be read and that join can be read as one, which is filled in as they are. -/
theorem substitute_append (front back : String) (hf : ∃ template, parse front = .ok template)
    (hb : ∃ template, parse back = .ok template) (hj : Joins front.toList back.toList) :
    (∃ template, parse (front ++ back) = .ok template) ∧ ∀ value?,
      substitute (front ++ back) value? =
        (do return (← substitute front value?) ++ (← substitute back value?)) := by
  obtain ⟨_, hf⟩ := hf
  obtain ⟨_, hb⟩ := hb
  obtain ⟨fronts, hfronts, rfl⟩ := (parse_eq_ok_iff front _).mp hf
  obtain ⟨backs, hbacks, rfl⟩ := (parse_eq_ok_iff back _).mp hb
  obtain ⟨slices, hreads, hr⟩ :=
    exists_reads_append front.toList back.toList fronts backs hfronts hbacks hj
  have hjoined : parse (front ++ back) = .ok ⟨front ++ back, slices.map Slice.segment⟩ :=
    (parse_eq_ok_iff _ _).mpr ⟨slices, by rwa [String.toList_append], rfl⟩
  refine ⟨⟨_, hjoined⟩, fun value? => ?_⟩
  rw [substitute, substitute, substitute, hf, hb, hjoined]
  exact hr value?

end Joining

section Rendering
variable (value? : String → Option Json)

/-- Segments are not filled in exactly if a key is not set, and the first such key is to blame. -/
theorem renderSegments_eq_error_iff (segments : List Segment) (e : Error) :
    renderSegments value? segments = .error e ↔
      ∃ key, (segments.filterMap Segment.key?).find? (fun k => (value? k).isNone) = some key ∧
        e = .undefinedVariable key := by
  induction segments with
  | nil => simp [renderSegments]
  | cons segment segments ih =>
    cases segment with
    | literal text =>
      rw [renderSegments, List.filterMap_cons_none rfl, ← ih]
      cases renderSegments value? segments <;> simp [Except.map]
    | placeholder key =>
      have hkeys : (Segment.placeholder key :: segments).filterMap Segment.key? =
          key :: segments.filterMap Segment.key? := rfl
      rw [renderSegments, hkeys]
      cases hv : value? key with
      | none => simp [hv, eq_comm]
      | some value =>
        rw [List.find?_cons_of_neg (by simp [hv]), ← ih]
        cases renderSegments value? segments <;> simp [Except.map]

/-- A placeholder alone stands for the value of its key, as it is spliced in. -/
theorem substitute_placeholder (key : String) (hkey : IsKey key.toList) :
    substitute ("\x7b\x7b" ++ key ++ "\x7d\x7d") value? =
      (valueOf key value?).map Json.splice := by
  have htext : ("\x7b\x7b" ++ key ++ "\x7d\x7d").toList =
      openMark ++ (key.toList ++ closeMark ++ []) := by
    simp [openMark, closeMark, String.toList_append]
  have hclose : FirstAt closeMark key.toList [] (key.toList ++ closeMark ++ []) :=
    firstAt_of_not_mem '\x7d' ['\x7d'] key.toList [] (brace_not_mem_key _ hkey)
  have htrim := trimBlanks_of_isKey key.toList hkey
  have hreads : Reads ("\x7b\x7b" ++ key ++ "\x7d\x7d").toList [.hole key.toList] :=
    htext ▸ .hole [] key.toList _ [] _ [] (firstAt_here openMark _) hclose (htrim.symm ▸ hkey)
      (.plain [] rfl)
  have hparse := (parse_eq_ok_iff _ _).mpr ⟨_, hreads, rfl⟩
  have hsegment : Slice.segment (.hole key.toList) = .placeholder key := by
    rw [Slice.segment, htrim, String.ofList_toList]
  rw [substitute, hparse]
  show renderSegments value? [_] = _
  rw [hsegment, renderSegments, renderSegments, valueOf]
  cases value? key <;> simp [Except.map]

end Rendering

/-- Filling in is local and goes once through a text. A placeholder alone becomes the value of its
key, whatever is in it. Two texts that join are filled in one by one. If a text is not filled in,
the first key in reading order that is not set is to blame. Only the keys of a text matter to it. -/
theorem substitute_is_compositional :
    (∀ (key : String) (value? : String → Option Json), IsKey key.toList →
      substitute ("\x7b\x7b" ++ key ++ "\x7d\x7d") value? =
        (valueOf key value?).map Json.splice) ∧
    (∀ front back : String, (∃ template, parse front = .ok template) →
      (∃ template, parse back = .ok template) → Joins front.toList back.toList →
      (∃ template, parse (front ++ back) = .ok template) ∧ ∀ value?,
        substitute (front ++ back) value? =
          (do return (← substitute front value?) ++ (← substitute back value?))) ∧
    (∀ (template : Template) (value? : String → Option Json) (e : Error),
      template.render value? = .error e ↔
        ∃ key, template.placeholders.find? (fun key => (value? key).isNone) = some key ∧
          e = .undefinedVariable key) ∧
    ∀ (template : Template) (value? other? : String → Option Json),
      (∀ key ∈ template.placeholders, value? key = other? key) →
        template.render value? = template.render other? := by
  refine ⟨fun key value? => substitute_placeholder value? key, substitute_append, ?_, ?_⟩
  · intro template value? e
    exact renderSegments_eq_error_iff value? template.segments e
  · intro template value? other? h
    exact (needs_renderSegments template.segments).reads _ value? other? rfl h

def sneaky (key : String) : Option Json :=
  if key = "name" then some (.str "\x7b\x7bid\x7d\x7d") else none

def nameAndId : Template :=
  ⟨"\x7b\x7bname\x7d\x7d\x7b\x7bid\x7d\x7d", [.placeholder "name", .placeholder "id"]⟩

/-- The name is not read again, whatever braces stand around it; the other key is not set; and what
is set under keys other than these two does not matter. -/
theorem substitute_is_compositional_sneaky :
    substitute ("\x7b\x7b" ++ "name" ++ "\x7d\x7d") sneaky = .ok "\x7b\x7bid\x7d\x7d" ∧
    substitute ("\x7d\x7b\x7bname\x7d\x7d\x7b" ++ "\x7d") sneaky =
      .ok "\x7d\x7b\x7bid\x7d\x7d\x7b\x7d" ∧
    nameAndId.render sneaky = .error (.undefinedVariable "id") ∧
    nameAndId.render sneaky =
      nameAndId.render fun key => if key = "id" then none else sneaky "name" := by
  obtain ⟨halone, hjoined, hunset, hlocal⟩ := substitute_is_compositional
  have hkey : IsKey "name".toList := isKey_of_all _ (by decide) (by decide)
  have hfront : parse "\x7d\x7b\x7bname\x7d\x7d\x7b" = .ok ⟨"\x7d\x7b\x7bname\x7d\x7d\x7b",
      [.literal "\x7d", .placeholder "name", .literal "\x7b"]⟩ := by decide +kernel
  have hback : parse "\x7d" = .ok ⟨"\x7d", [.literal "\x7d"]⟩ := by decide +kernel
  obtain ⟨-, hfilled⟩ := hjoined _ _ ⟨_, hfront⟩ ⟨_, hback⟩ (by decide)
  refine ⟨halone "name" sneaky hkey, ?_, ?_, ?_⟩
  · rw [hfilled sneaky]
    decide +kernel
  · exact (hunset nameAndId sneaky _).mpr ⟨"id", by decide, rfl⟩
  · exact hlocal nameAndId sneaky _ (by simp [nameAndId, placeholders, Segment.key?, sneaky])

end Template

end ApiTrial
