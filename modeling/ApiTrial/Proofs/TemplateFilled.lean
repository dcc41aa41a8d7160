import ApiTrial.Proofs.RequestKeys
import ApiTrial.Proofs.TemplateGrammar

/-! What a template text becomes, told one character or one hole at a time. A text that is told so
is what substitution makes of it, and the other way round; in this form the text can be cut at any
character that opens nothing. -/
namespace ApiTrial.Template
open Text

inductive Fills (Holds : String → Json → Prop) : List Char → List Char → Prop
  | nil : Fills Holds [] []
  | char (c : Char) (rest filled : List Char) (hc : ¬ openMark <+: c :: rest)
      (hrest : Fills Holds rest filled) : Fills Holds (c :: rest) (c :: filled)
  | hole (inside rest after filled : List Char) (value : Json)
      (hclose : FirstAt closeMark inside rest after) (hkey : IsKey (trimBlanks inside))
      (hvalue : Holds (String.ofList (trimBlanks inside)) value) (hrest : Fills Holds rest filled) :
      Fills Holds (openMark ++ after) (value.splice.toList ++ filled)

variable (Holds : String → Json → Prop)

theorem fills_plain (text : List Char) (h : occursIn openMark text = false) :
    Fills Holds text text := by
  induction text with
  | nil => exact .nil
  | cons c rest ih =>
    obtain ⟨hc, hrest⟩ := not_occursIn_cons openMark rest c h
    exact .char c rest rest hc (ih hrest)

theorem fills_before (before after text filled : List Char) (h : FirstAt openMark before after text)
    (hfilled : Fills Holds (openMark ++ after) filled) : Fills Holds text (before ++ filled) := by
  induction before generalizing text with
  | nil =>
    rw [h.eq]
    exact hfilled
  | cons c before ih =>
    obtain ⟨rest, rfl, hc, hrest⟩ := firstAt_of_cons _ _ _ _ _ h
    exact .char c rest _ hc (ih rest hrest)

/-- A text without holes stays as it is. -/
theorem eq_of_fills_plain (text filled : List Char) (hplain : occursIn openMark text = false)
    (h : Fills Holds text filled) : filled = text := by
  induction h with
  | nil => rfl
  | char c rest filled hc hrest ih =>
    rw [ih (not_occursIn_cons openMark rest c hplain).2]
  | hole inside rest after filled value hclose hkey hvalue hrest ih =>
    have hopens : occursIn openMark (openMark ++ after) = true :=
      occursIn_iff.mpr ⟨[], after, rfl⟩
    rw [hplain] at hopens
    cases hopens

section Cutting
variable {Holds}

/-- A character that opens nothing stays, and the text behind it is filled by itself. -/
theorem fills_cons (c : Char) (rest filled : List Char) (hc : ¬ openMark <+: c :: rest)
    (h : Fills Holds (c :: rest) filled) :
    ∃ behind, filled = c :: behind ∧ Fills Holds rest behind := by
  generalize ht : c :: rest = text at h
  cases h with
  | nil => cases ht
  | char d tail filled _ hrest =>
    cases ht
    exact ⟨filled, rfl, hrest⟩
  | hole inside tail after filled value hclose hkey hvalue hrest =>
    exact absurd ⟨after, ht.symm⟩ hc

theorem not_opens_of_ne (c : Char) (rest : List Char) (h : c ≠ '\x7b') :
    ¬ openMark <+: c :: rest := by
  rintro ⟨after, he⟩
  exact h (List.cons.inj he).1.symm

theorem fills_append (text rest filled : List Char) (ht : '\x7b' ∉ text)
    (h : Fills Holds (text ++ rest) filled) :
    ∃ behind, filled = text ++ behind ∧ Fills Holds rest behind := by
  induction text generalizing filled with
  | nil => exact ⟨filled, rfl, h⟩
  | cons c text ih =>
    have hc : c ≠ '\x7b' := fun he => ht (he ▸ List.mem_cons_self)
    have htext : '\x7b' ∉ text := fun hm => ht (List.mem_cons_of_mem c hm)
    obtain ⟨behind, rfl, hb⟩ := fills_cons c _ filled (not_opens_of_ne c _ hc) h
    obtain ⟨behind', rfl, hb'⟩ := ih behind htext hb
    exact ⟨behind', rfl, hb'⟩

end Cutting

section Substitution
variable (value? : String → Option Json)

theorem renderSegments_front (text : List Char) (segments : List Segment) :
    renderSegments value? ((front text).map Slice.segment ++ segments) =
      (renderSegments value? segments).map (String.ofList text ++ ·) := by
  rw [front]
  by_cases h : text = []
  · subst h
    cases hr : renderSegments value? segments with
    | error e => simp [hr, Except.map]
    | ok rendered => simp [hr, Except.map]
  · simp [h, Slice.segment, renderSegments]

/-- The keys of a text with a hole in front are that of the hole and those behind it. -/
theorem keys_hole (before inside : List Char) (slices : List Slice) :
    ((front before ++ .hole inside :: slices).map Slice.segment).filterMap Segment.key? =
      String.ofList (trimBlanks inside) ::
        (slices.map Slice.segment).filterMap Segment.key? := by
  rw [front]
  by_cases h : before = [] <;>
    simp only [h, if_true, if_false, List.nil_append, List.cons_append, List.map_cons,
      List.filterMap_cons, Slice.segment, Segment.key?]

/-- A text that is read and rendered is filled in. -/
theorem fills_of_reads (text : List Char) (slices : List Slice) (rendered : String)
    (h : Reads text slices)
    (hr : renderSegments value? (slices.map Slice.segment) = .ok rendered)
    (hholds : ∀ key ∈ (slices.map Slice.segment).filterMap Segment.key?, ∀ value,
      value? key = some value → Holds key value) : Fills Holds text rendered.toList := by
  induction h generalizing rendered with
  | plain text h =>
    have hfront := renderSegments_front value? text []
    rw [List.append_nil, hr] at hfront
    cases hfront
    simpa using fills_plain Holds text h
  | hole before inside after rest text slices hopen hclose hkey hrest ih =>
    rw [keys_hole] at hholds
    obtain ⟨hfirst, hkeys⟩ := List.forall_mem_cons.mp hholds
    rw [List.map_append, List.map_cons, renderSegments_front, Slice.segment, renderSegments] at hr
    cases hv : value? (String.ofList (trimBlanks inside)) with
    | none =>
      rw [hv] at hr
      cases hr
    | some value =>
      cases hs : renderSegments value? (slices.map Slice.segment) with
      | error e =>
        rw [hv, hs] at hr
        cases hr
      | ok behind =>
        rw [hv, hs] at hr
        cases hr
        have hfilled := Fills.hole inside rest after _ value hclose hkey (hfirst value hv)
          (ih behind hs hkeys)
        simpa using fills_before Holds before after text _ hopen hfilled

/-- What substitution makes of a text, told hole by hole with the values of the listed keys. -/
theorem fills_of_substitute (source text : String) (keys : List String)
    (hk : RequestTemplate.keysOf source = .ok keys) (h : substitute source value? = .ok text)
    (hholds : ∀ key ∈ keys, ∀ value, value? key = some value → Holds key value) :
    Fills Holds source.toList text.toList := by
  cases hr : readFrom none [] 0 source.toList with
  | error fault =>
    rw [substitute, parse, hr] at h
    cases h
  | ok segments =>
    obtain ⟨slices, hreads, rfl⟩ := reads_of_readFrom source.toList 0 segments hr
    have hp : parse source = .ok ⟨source, slices.map Slice.segment⟩ := by rw [parse, hr]
    rw [substitute, hp] at h
    rw [RequestTemplate.keysOf, hp] at hk
    cases hk
    exact fills_of_reads Holds value? source.toList slices text hreads h hholds

/-- A character in front of a text goes before its first piece. -/
theorem exists_reads_cons (c : Char) (rest : List Char) (slices : List Slice)
    (hc : ¬ openMark <+: c :: rest) (h : Reads rest slices) :
    ∃ slices', Reads (c :: rest) slices' ∧ ∀ known?,
      renderSegments known? (slices'.map Slice.segment) =
        (renderSegments known? (slices.map Slice.segment)).map (String.ofList [c] ++ ·) := by
  cases h with
  | plain _ hplain =>
    have hnone : occursIn openMark (c :: rest) = false := by
      rw [occursIn, hplain, Bool.or_false, ← Bool.not_eq_true, List.isPrefixOf_iff_prefix]
      exact hc
    refine ⟨front (c :: rest), .plain _ hnone, fun known? => ?_⟩
    have hfront := renderSegments_front known? rest []
    have hfront' := renderSegments_front known? (c :: rest) []
    rw [List.append_nil] at hfront hfront'
    rw [hfront, hfront']
    simp [renderSegments, Except.map, String.ofList_cons]
  | hole before inside after behind _ slices hopen hclose hkey hrest =>
    refine ⟨front (c :: before) ++ .hole inside :: slices,
      .hole (c :: before) inside after behind _ slices
        (firstAt_cons openMark before after rest c hc hopen) hclose hkey hrest, fun known? => ?_⟩
    rw [List.map_append, List.map_append, renderSegments_front, renderSegments_front]
    cases renderSegments known? ((Slice.hole inside :: slices).map Slice.segment) <;>
      simp [Except.map, String.ofList_cons, String.append_assoc]

/-- Substitution makes of a text what it is told to become with the values that are set. -/
theorem substitute_of_fills (text filled : List Char) (h : Fills Holds text filled)
    (hholds : ∀ key value, Holds key value → value? key = some value) :
    substitute (String.ofList text) value? = .ok (String.ofList filled) := by
  have hreads : ∃ slices, Reads text slices ∧
      renderSegments value? (slices.map Slice.segment) = .ok (String.ofList filled) := by
    induction h with
    | nil => exact ⟨[], .plain [] rfl, rfl⟩
    | char c rest filled hc hrest ih =>
      obtain ⟨slices, hreads, hr⟩ := ih
      obtain ⟨slices', hreads', hcons⟩ := exists_reads_cons c rest slices hc hreads
      refine ⟨slices', hreads', ?_⟩
      rw [hcons, hr]
      simp [Except.map, String.ofList_cons]
    | hole inside rest after filled value hclose hkey hvalue hrest ih =>
      obtain ⟨slices, hreads, hr⟩ := ih
      refine ⟨.hole inside :: slices, .hole [] inside after rest _ slices
        (firstAt_here openMark after) hclose hkey hreads, ?_⟩
      rw [List.map_cons, Slice.segment, renderSegments, hholds _ value hvalue, hr]
      simp [Except.map]
  obtain ⟨slices, hreads, hr⟩ := hreads
  have hread := readFrom_of_reads text slices 0 hreads
  rw [substitute, parse, String.toList_ofList, hread]
  exact hr

end Substitution

section Texts
variable (value? : String → Option Json)

/-- A text is filled in character by character. -/
theorem substitute_eq_of_toList (source : String) (chars : List Char) (h : source.toList = chars) :
    substitute source value? = match readFrom none [] 0 chars with
      | .ok segments => renderSegments value? segments
      | .error (offset, fault) => .error (.malformedTemplate source offset fault.message) := by
  rw [substitute, parse, h]
  cases readFrom none [] 0 chars <;> rfl

theorem substitute_render (value : Json) :
    substitute value.render value? = match readFrom none [] 0 value.write with
      | .ok segments => renderSegments value? segments
      | .error (offset, fault) => .error (.malformedTemplate value.render offset fault.message) :=
  substitute_eq_of_toList value? _ _ String.toList_ofList

/-- The lines of a text are taken apart one by one. -/
theorem substitute_lines (lines : List String) :
    substitute ("\n".intercalate lines) value? =
      match readFrom none [] 0 (['\n'].intercalate (lines.map String.toList)) with
      | .ok segments => renderSegments value? segments
      | .error (offset, fault) =>
        .error (.malformedTemplate ("\n".intercalate lines) offset fault.message) :=
  substitute_eq_of_toList value? _ _ String.toList_intercalate

/-- A text without placeholders stands for itself. -/
theorem substitute_of_plain (source : String)
    (h : readFrom none [] 0 source.toList = .ok [.literal source]) :
    substitute source value? = .ok source := by
  rw [substitute_eq_of_toList value? source _ rfl, h]
  simp only [renderSegments, Except.map, String.append_empty]

/-- A text with one placeholder. -/
theorem substitute_of_one (source front back key : String) (value : Json)
    (h : readFrom none [] 0 source.toList =
      .ok [.literal front, .placeholder key, .literal back])
    (hv : value? key = some value) :
    substitute source value? = .ok (front ++ value.splice ++ back) := by
  rw [substitute_eq_of_toList value? source _ rfl, h]
  simp only [renderSegments, hv, Except.map, String.append_empty, String.append_assoc]

/-- A text with two placeholders. -/
theorem substitute_of_two (source : String) (chars : List Char)
    (front middle back key₁ key₂ : String) (value₁ value₂ : Json) (hs : source.toList = chars)
    (h : readFrom none [] 0 chars = .ok
      [.literal front, .placeholder key₁, .literal middle, .placeholder key₂, .literal back])
    (h₁ : value? key₁ = some value₁) (h₂ : value? key₂ = some value₂) :
    substitute source value? =
      .ok (front ++ value₁.splice ++ middle ++ value₂.splice ++ back) := by
  rw [substitute_eq_of_toList value? source chars hs, h]
  simp only [renderSegments, h₁, h₂, Except.map, String.append_empty, String.append_assoc]

end Texts

end ApiTrial.Template
