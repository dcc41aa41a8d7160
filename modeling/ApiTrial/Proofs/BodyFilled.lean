import ApiTrial.Proofs.JsonText
import ApiTrial.Proofs.RoutineOutcome
import ApiTrial.Proofs.TemplateFilled

/-! Bodies that are written out before their placeholders are filled in. No hole reaches over a
quote or a backslash, since neither stands in a key; so each hole lies in one string of the value,
and filling in the text of the value fills in its strings one by one. -/
namespace ApiTrial

namespace Json
open Template Text

def Unescaped (c : Char) : Prop := c ≠ '\x22' ∧ c ≠ '\\' ∧ 0x20 ≤ c.toNat

instance (c : Char) : Decidable (Unescaped c) :=
  inferInstanceAs (Decidable (c ≠ '\x22' ∧ c ≠ '\\' ∧ 0x20 ≤ c.toNat))

mutual

/-- The value with `f` of each text in place of the text; names of members stay. -/
def mapStrings (f : String → Except Error String) : Json → Except Error Json
  | str text => (f text).map str
  | arr items => (mapItems f items).map arr
  | obj members => (mapMembers f members).map obj
  | value => .ok value

def mapItems (f : String → Except Error String) : List Json → Except Error (List Json)
  | [] => .ok []
  | item :: rest => do return (← mapStrings f item) :: (← mapItems f rest)

def mapMembers (f : String → Except Error String) :
    List (String × Json) → Except Error (List (String × Json))
  | [] => .ok []
  | (key, value) :: rest => do return (key, ← mapStrings f value) :: (← mapMembers f rest)

end

section Strings

theorem escapeChar_of_unescaped (c : Char) (h : Unescaped c) : escapeChar c = [c] := by
  obtain ⟨hquote, hslash, hcontrol⟩ := h
  have hnot (d : Char) (hd : d.toNat < 0x20) : c ≠ d := by
    rintro rfl
    omega
  simp only [escapeChar, hquote, hslash, hnot '\x08' (by decide), hnot '\t' (by decide),
    hnot '\n' (by decide), hnot '\x0c' (by decide), hnot '\r' (by decide), not_lt.mpr hcontrol,
    if_false]

/-- An escape begins with a backslash, and has no brace in it. -/
theorem escapeChar_of_escaped (c : Char) (h : ¬ Unescaped c) :
    ∃ rest, escapeChar c = '\\' :: rest ∧ '\x7b' ∉ escapeChar c := by
  have hdigit : ∀ n < 0x20, hexDigit (n / 16) ≠ '\x7b' ∧ hexDigit (n % 16) ≠ '\x7b' := by decide
  rw [escapeChar]
  split_ifs with hquote hslash hb ht hn hf hr hcontrol
  iterate 7 next => exact ⟨_, rfl, by decide⟩
  · obtain ⟨hhigh, hlow⟩ := hdigit c.toNat hcontrol
    refine ⟨_, rfl, ?_⟩
    simp [hhigh.symm, hlow.symm]
  · exact absurd ⟨hquote, hslash, not_lt.mp hcontrol⟩ h

/-- Text without characters to escape is written as it is. -/
theorem flatMap_escapeChar (text : List Char) (h : ∀ c ∈ text, Unescaped c) :
    text.flatMap escapeChar = text := by
  induction text with
  | nil => rfl
  | cons c text ih =>
    obtain ⟨hc, htext⟩ := List.forall_mem_cons.mp h
    rw [List.flatMap_cons, escapeChar_of_unescaped c hc, ih htext]
    rfl

/-- What stands in front in a written string, without a quote or a backslash, is text of it. -/
theorem exists_of_escaped_eq (front behind text rest : List Char) (hquote : '\x22' ∉ front)
    (hslash : '\\' ∉ front)
    (h : text.flatMap escapeChar ++ '\x22' :: rest = front ++ behind) :
    ∃ text', text = front ++ text' ∧ behind = text'.flatMap escapeChar ++ '\x22' :: rest ∧
      ∀ c ∈ front, Unescaped c := by
  induction front generalizing text with
  | nil => exact ⟨text, rfl, h.symm, nofun⟩
  | cons c front ih =>
    simp only [List.mem_cons, not_or] at hquote hslash
    cases text with
    | nil => exact absurd (List.cons.inj h).1 hquote.1
    | cons d text =>
      rw [List.flatMap_cons, List.append_assoc] at h
      by_cases hd : Unescaped d
      · rw [escapeChar_of_unescaped d hd] at h
        obtain ⟨rfl, htail⟩ := List.cons.inj h
        obtain ⟨text', rfl, hbehind, hall⟩ := ih text hquote.2 hslash.2 htail
        exact ⟨text', rfl, hbehind, List.forall_mem_cons.mpr ⟨hd, hall⟩⟩
      · obtain ⟨escape, he, -⟩ := escapeChar_of_escaped d hd
        rw [he] at h
        exact absurd (List.cons.inj h).1 hslash.1

theorem mem_of_not_isBlank (text : List Char) (c : Char) (hm : c ∈ text) (hc : isBlank c = false) :
    c ∈ trimBlanks text := by
  have hdrop (text : List Char) (hm : c ∈ text) : c ∈ text.dropWhile isBlank := by
    rw [← List.takeWhile_append_dropWhile (p := isBlank) (l := text)] at hm
    rcases List.mem_append.mp hm with hm | hm
    · rw [List.all_eq_true.mp List.all_takeWhile c hm] at hc
      cases hc
    · exact hm
  rw [trimBlanks, List.mem_reverse]
  exact hdrop _ (List.mem_reverse.mpr (hdrop text hm))

/-- No hole has a quote or a backslash in it. -/
theorem not_mem_of_isKey (inside : List Char) (h : IsKey (trimBlanks inside)) :
    '\x22' ∉ inside ∧ '\\' ∉ inside := by
  have hnot (c : Char) (hblank : isBlank c = false) (hkey : isKeyChar c = false) : c ∉ inside := by
    intro hm
    have hc := (isKeyChar_iff c).mpr (h.2 c (mem_of_not_isBlank inside c hm hblank))
    rw [hkey] at hc
    cases hc
  exact ⟨hnot '\x22' (by decide) (by decide), hnot '\\' (by decide) (by decide)⟩

variable {Holds : String → Json → Prop}

/-- Where a hole ends in a written string, it ends in the text. -/
theorem firstAt_of_escaped (inside text text' rest behind : List Char)
    (h : FirstAt closeMark inside behind (text.flatMap escapeChar ++ rest))
    (htext : text = inside ++ closeMark ++ text') (hplain : ∀ c ∈ inside, Unescaped c) :
    FirstAt closeMark inside text' text where
  eq := htext
  first := by
    intro front back he
    by_contra hlt
    have hfront : front <+: inside := by
      rw [htext, List.append_assoc, List.append_assoc] at he
      exact List.prefix_of_prefix_length_le ⟨_, he.symm⟩ ⟨_, rfl⟩ (Nat.le_of_not_le hlt)
    have hkeep : front.flatMap escapeChar = front :=
      flatMap_escapeChar front fun c hc => hplain c (hfront.mem hc)
    have hmark : closeMark.flatMap escapeChar = closeMark := rfl
    have hle := h.first front (back.flatMap escapeChar ++ rest) (by
      rw [he, List.flatMap_append, List.flatMap_append, hkeep, hmark, List.append_assoc])
    exact hlt hle

variable {Holds : String → Json → Prop}

/-- A written string is filled as its text is: where each value is text that stands for itself, what
comes of the string is the string of what comes of the text. -/
theorem fills_string (hsafe : ∀ key value, Holds key value → ∀ c ∈ value.splice.toList, Unescaped c)
    (text rest filled : List Char)
    (h : Fills Holds (text.flatMap escapeChar ++ '\x22' :: rest) filled) :
    ∃ text' behind, filled = text'.flatMap escapeChar ++ '\x22' :: behind ∧
      Fills Holds text text' ∧ Fills Holds rest behind := by
  induction hn : text.length using Nat.strong_induction_on generalizing text filled with
  | _ n ih =>
    generalize hw : text.flatMap escapeChar ++ '\x22' :: rest = whole at h
    cases h with
    | nil => exact absurd hw (by simp)
    | hole inside tail after filled value hclose hkey hvalue hrest =>
      obtain ⟨text, rfl, rfl, -⟩ :=
        exists_of_escaped_eq openMark _ text rest (by decide) (by decide) hw
      obtain ⟨hquote, hslash⟩ := not_mem_of_isKey inside hkey
      have hquote' : '\x22' ∉ inside ++ closeMark := by simp [closeMark, hquote]
      have hslash' : '\\' ∉ inside ++ closeMark := by simp [closeMark, hslash]
      obtain ⟨text', htext, rfl, hplain⟩ :=
        exists_of_escaped_eq _ tail text rest hquote' hslash' hclose.eq
      have hends := firstAt_of_escaped inside text text' _ _ hclose htext fun c hc =>
        hplain c (List.mem_append_left _ hc)
      have hlt : text'.length < n := by
        rw [← hn, htext]
        simp only [List.length_append, openMark, closeMark, List.length_cons]
        omega
      obtain ⟨filled', behind, rfl, hf, hb⟩ := ih text'.length hlt text' filled hrest rfl
      refine ⟨value.splice.toList ++ filled', behind, ?_,
        .hole inside text' text filled' value hends hkey hvalue hf, hb⟩
      rw [List.flatMap_append, flatMap_escapeChar _ (hsafe _ value hvalue), List.append_assoc]
    | char c tail filled hc hrest =>
      cases text with
      | nil =>
        obtain ⟨rfl, rfl⟩ := List.cons.inj hw
        exact ⟨[], filled, rfl, .nil, hrest⟩
      | cons d text =>
        have hlt : text.length < n := hn ▸ Nat.lt_succ_self _
        rw [List.flatMap_cons, List.append_assoc] at hw
        by_cases hd : Unescaped d
        · rw [escapeChar_of_unescaped d hd] at hw
          obtain ⟨rfl, rfl⟩ := List.cons.inj hw
          obtain ⟨filled', behind, rfl, hf, hb⟩ := ih text.length hlt text filled hrest rfl
          have hopens : ¬ openMark <+: d :: text := by
            rintro ⟨back, he⟩
            obtain ⟨rfl, rfl⟩ := List.cons.inj he
            exact hc ⟨back.flatMap escapeChar ++ '\x22' :: rest, rfl⟩
          refine ⟨d :: filled', behind, ?_, .char d text filled' hopens hf, hb⟩
          rw [List.flatMap_cons, escapeChar_of_unescaped d hd]
          rfl
        · obtain ⟨escape, he, hbrace⟩ := escapeChar_of_escaped d hd
          rw [he] at hw hbrace
          obtain ⟨rfl, rfl⟩ := List.cons.inj hw
          have hbrace' : '\x7b' ∉ escape := fun hm => hbrace (List.mem_cons_of_mem _ hm)
          obtain ⟨after, rfl, hafter⟩ := fills_append escape _ filled hbrace' hrest
          obtain ⟨filled', behind, rfl, hf, hb⟩ := ih text.length hlt text after hafter rfl
          have hne : d ≠ '\x7b' := fun hx => hd (hx ▸ by decide)
          refine ⟨d :: filled', behind, ?_, .char d text filled' (not_opens_of_ne d text hne) hf,
            hb⟩
          rw [List.flatMap_cons, he, List.append_assoc]
          rfl

theorem fills_writeString
    (hsafe : ∀ key value, Holds key value → ∀ c ∈ value.splice.toList, Unescaped c)
    (text : String) (rest filled : List Char) (h : Fills Holds (writeString text ++ rest) filled) :
    ∃ text' behind, filled = writeString text' ++ behind ∧
      Fills Holds text.toList text'.toList ∧ Fills Holds rest behind := by
  have hw (text : String) (rest : List Char) :
      writeString text ++ rest = '\x22' :: (text.toList.flatMap escapeChar ++ '\x22' :: rest) := by
    simp only [writeString, List.cons_append, List.append_assoc, List.nil_append]
  rw [hw] at h
  obtain ⟨inner, rfl, hi⟩ := fills_cons '\x22' _ filled (not_opens_of_ne _ _ (by decide)) h
  obtain ⟨text', behind, rfl, hf, hb⟩ := fills_string hsafe text.toList rest inner hi
  exact ⟨String.ofList text', behind, by rw [hw, String.toList_ofList], by
    rwa [String.toList_ofList], hb⟩

end Strings

section Values
variable (value? : String → Option Json) {Holds : String → Json → Prop} (Named : String → Prop)

def FilledIn (Holds : String → Json → Prop) (depth : Nat) (value : Json) : Prop :=
  ∀ rest filled, Fills Holds (write value ++ rest) filled →
    ∃ value' behind, filled = write value' ++ behind ∧
      value.mapStrings (substitute · value?) = .ok value' ∧ value'.Fits Named depth ∧
      Fills Holds rest behind

theorem not_opens_of_second_ne (d : Char) (rest : List Char) (h : d ≠ '\x7b') :
    ¬ openMark <+: '\x7b' :: d :: rest := by
  rintro ⟨after, he⟩
  exact h (List.cons.inj (List.cons.inj he).2).1.symm

theorem ordered_of_keys_eq (table other : Table Json) (h : other.keys = table.keys)
    (ho : table.Ordered) : other.Ordered := by
  have hkeys : table.keys.Pairwise (· < ·) := List.pairwise_map.mpr ho
  rw [← h] at hkeys
  exact List.pairwise_map.mp hkeys

theorem filledIn_of_plain (depth : Nat) (value : Json) (hbrace : '\x7b' ∉ write value)
    (hsame : value.mapStrings (substitute · value?) = .ok value) (hfits : value.Fits Named depth) :
    FilledIn value? Named Holds depth value := by
  intro rest filled h
  obtain ⟨behind, rfl, hb⟩ := fills_append (write value) rest filled hbrace h
  exact ⟨value, behind, rfl, hsame, hfits, hb⟩

theorem not_mem_writeInt (i : Int) : '\x7b' ∉ writeInt i := by
  have hdigits : '\x7b' ∉ writeNat i.natAbs := fun hm =>
    absurd (Nat.isDigit_of_mem_toDigits (by decide) (by decide) hm) (by decide)
  rw [writeInt]
  split_ifs
  · simpa using hdigits
  · exact hdigits

/-- A list is filled in item by item, and the text behind it goes on from there. -/
theorem filledIn_items (depth : Nat) (first : Json) (items : List Json)
    (h : ∀ item ∈ first :: items, FilledIn value? Named Holds depth item) (rest filled : List Char)
    (hf : Fills Holds (writeItems (first :: items) ++ rest) filled) :
    ∃ first' items' behind, filled = writeItems (first' :: items') ++ behind ∧
      mapItems (substitute · value?) (first :: items) = .ok (first' :: items') ∧
      (∀ item ∈ first' :: items', item.Fits Named depth) ∧ Fills Holds rest behind := by
  induction items generalizing first filled with
  | nil =>
    have hfirst := h first List.mem_cons_self
    rw [writeItems] at hf
    obtain ⟨first', behind, rfl, hmap, hfits, hb⟩ := hfirst rest filled hf
    refine ⟨first', [], behind, by rw [writeItems], ?_, by simpa using hfits, hb⟩
    rw [mapItems, hmap]
    rfl
  | cons second items ih =>
    obtain ⟨hfirst, hitems⟩ := List.forall_mem_cons.mp h
    rw [writeItems_cons_cons, List.append_assoc, List.cons_append] at hf
    obtain ⟨first', after, rfl, hmap, hfits, ha⟩ := hfirst _ filled hf
    obtain ⟨tail, rfl, ht⟩ := fills_cons ',' _ after (not_opens_of_ne _ _ (by decide)) ha
    obtain ⟨second', items', behind, rfl, hmap', hfits', hb⟩ := ih second hitems tail ht
    refine ⟨first', second' :: items', behind, ?_, ?_, List.forall_mem_cons.mpr ⟨hfits, hfits'⟩, hb⟩
    · rw [writeItems_cons_cons, List.append_assoc, List.cons_append]
    · rw [mapItems, hmap, hmap']
      rfl

/-- A member is filled in as its value is; its key has no hole. -/
theorem filledIn_member
    (hsafe : ∀ key value, Holds key value → ∀ c ∈ value.splice.toList, Unescaped c) (depth : Nat)
    (key : String) (value : Json) (hkey : occursIn openMark key.toList = false)
    (h : FilledIn value? Named Holds depth value) (rest filled : List Char)
    (hf : Fills Holds (writeString key ++ ':' :: (write value ++ rest)) filled) :
    ∃ value' behind, filled = writeString key ++ ':' :: (write value' ++ behind) ∧
      value.mapStrings (substitute · value?) = .ok value' ∧ value'.Fits Named depth ∧
      Fills Holds rest behind := by
  obtain ⟨key', after, rfl, hk, ha⟩ := fills_writeString hsafe key _ filled hf
  have hsame : key' = key :=
    String.toList_injective (eq_of_fills_plain Holds key.toList key'.toList hkey hk)
  obtain ⟨tail, rfl, ht⟩ := fills_cons ':' _ after (not_opens_of_ne _ _ (by decide)) ha
  obtain ⟨value', behind, rfl, hmap, hfits, hb⟩ := h rest tail ht
  exact ⟨value', behind, by rw [hsame], hmap, hfits, hb⟩

/-- An object without marks in its keys is filled in member by member. -/
theorem filledIn_members
    (hsafe : ∀ key value, Holds key value → ∀ c ∈ value.splice.toList, Unescaped c) (depth : Nat)
    (first : String × Json) (members : Table Json)
    (hkeys : ∀ member ∈ first :: members, occursIn openMark member.1.toList = false)
    (h : ∀ member ∈ first :: members, FilledIn value? Named Holds depth member.2)
    (rest filled : List Char) (hf : Fills Holds (writeMembers (first :: members) ++ rest) filled) :
    ∃ first' members' behind, filled = writeMembers (first' :: members') ++ behind ∧
      mapMembers (substitute · value?) (first :: members) = .ok (first' :: members') ∧
      Table.keys (first' :: members') = Table.keys (first :: members) ∧
      (∀ member ∈ first' :: members', member.2.Fits Named depth) ∧ Fills Holds rest behind := by
  induction members generalizing first filled with
  | nil =>
    obtain ⟨key, value⟩ := first
    rw [writeMembers, List.append_assoc, List.cons_append] at hf
    obtain ⟨value', behind, rfl, hmap, hfits, hb⟩ := filledIn_member value? Named hsafe depth key
      value (hkeys _ List.mem_cons_self) (h _ List.mem_cons_self) rest filled hf
    refine ⟨(key, value'), [], behind, ?_, ?_, rfl, by simpa using hfits, hb⟩
    · rw [writeMembers, List.append_assoc, List.cons_append]
    · rw [mapMembers, hmap]
      rfl
  | cons second members ih =>
    obtain ⟨key, value⟩ := first
    obtain ⟨hkey, hkeys⟩ := List.forall_mem_cons.mp hkeys
    obtain ⟨hvalue, hmembers⟩ := List.forall_mem_cons.mp h
    rw [writeMembers_cons_cons] at hf
    simp only [List.append_assoc, List.cons_append] at hf
    obtain ⟨value', after, rfl, hmap, hfits, ha⟩ :=
      filledIn_member value? Named hsafe depth key value hkey hvalue _ filled hf
    obtain ⟨tail, rfl, ht⟩ := fills_cons ',' _ after (not_opens_of_ne _ _ (by decide)) ha
    obtain ⟨second', members', behind, rfl, hmap', hsame, hfits', hb⟩ :=
      ih second hkeys hmembers tail ht
    refine ⟨(key, value'), second' :: members', behind, ?_, ?_, congrArg (key :: ·) hsame,
      List.forall_mem_cons.mpr ⟨hfits, hfits'⟩, hb⟩
    · rw [writeMembers_cons_cons]
      simp only [List.append_assoc, List.cons_append]
    · rw [mapMembers, hmap, hmap']
      rfl

/-- Filling in the text of a value fills in its strings. -/
theorem filledIn_of_fits (hholds : ∀ key value, Holds key value → value? key = some value)
    (hsafe : ∀ key value, Holds key value → ∀ c ∈ value.splice.toList, Unescaped c)
    (hnamed : ∀ key, Named key → occursIn openMark key.toList = false) (depth : Nat) (value : Json)
    (h : value.Fits Named depth) : FilledIn value? Named Holds depth value := by
  induction h with
  | null depth => exact filledIn_of_plain value? Named depth null (by decide) rfl (.null depth)
  | bool depth value =>
    have hbrace : '\x7b' ∉ write (bool value) := by cases value <;> decide
    exact filledIn_of_plain value? Named depth _ hbrace rfl (.bool depth value)
  | int depth i hleast hmost =>
    exact filledIn_of_plain value? Named depth _ (not_mem_writeInt i) rfl
      (.int depth i hleast hmost)
  | str depth text =>
    intro rest filled hf
    obtain ⟨text', behind, rfl, ht, hb⟩ := fills_writeString hsafe text rest filled hf
    have hs := substitute_of_fills Holds value? text.toList text'.toList ht hholds
    rw [String.ofList_toList, String.ofList_toList] at hs
    refine ⟨str text', behind, rfl, ?_, .str depth text', hb⟩
    rw [mapStrings, hs]
    rfl
  | arr depth items fits ih =>
    cases items with
    | nil => exact filledIn_of_plain value? Named _ _ (by decide) rfl (.arr depth [] fits)
    | cons first items =>
      intro rest filled hf
      rw [write, List.append_assoc, List.cons_append] at hf
      obtain ⟨after, rfl, ha⟩ := fills_cons '[' _ filled (not_opens_of_ne _ _ (by decide)) hf
      obtain ⟨first', items', tail, rfl, hmap, hfits, ht⟩ :=
        filledIn_items value? Named depth first items ih _ after ha
      obtain ⟨behind, rfl, hb⟩ := fills_cons ']' _ _ (not_opens_of_ne _ _ (by decide)) ht
      refine ⟨arr (first' :: items'), behind, ?_, ?_, .arr depth _ hfits, hb⟩
      · rw [write, List.append_assoc, List.cons_append]
        rfl
      · rw [mapStrings, hmap]
        rfl
  | obj depth members ordered named fits ih =>
    cases members with
    | nil =>
      intro rest filled hf
      obtain ⟨after, rfl, ha⟩ := fills_cons '\x7b' ('\x7d' :: rest) filled
        (not_opens_of_second_ne _ rest (by decide)) hf
      obtain ⟨behind, rfl, hb⟩ := fills_cons '\x7d' rest after (not_opens_of_ne _ _ (by decide)) ha
      exact ⟨obj [], behind, rfl, rfl, .obj depth [] ordered named fits, hb⟩
    | cons first members =>
      intro rest filled hf
      obtain ⟨text, hw⟩ := exists_writeMembers_eq first members
      have hopens :
          ¬ openMark <+: '\x7b' :: (writeMembers (first :: members) ++ '\x7d' :: rest) := by
        rw [hw]
        exact not_opens_of_second_ne _ _ (by decide)
      rw [write, List.append_assoc, List.cons_append] at hf
      obtain ⟨after, rfl, ha⟩ := fills_cons '\x7b' _ filled hopens hf
      obtain ⟨first', members', tail, rfl, hmap, hsame, hfits, ht⟩ :=
        filledIn_members value? Named hsafe depth first members
          (fun member hm => hnamed _ (named member hm)) ih _ after ha
      obtain ⟨behind, rfl, hb⟩ := fills_cons '\x7d' _ _ (not_opens_of_ne _ _ (by decide)) ht
      refine ⟨obj (first' :: members'), behind, ?_, ?_, .obj depth _ ?_ ?_ hfits, hb⟩
      · rw [write, List.append_assoc, List.cons_append]
        rfl
      · rw [mapStrings, hmap]
        rfl
      · exact ordered_of_keys_eq _ _ hsame ordered
      · intro member hm
        have hkey : member.1 ∈ Table.keys (first :: members) :=
          hsame ▸ List.mem_map_of_mem hm
        obtain ⟨old, ho, he⟩ := List.mem_map.mp hkey
        exact he ▸ named old ho

end Values

end Json

namespace RequestTemplate
open Template Text

/-- The body of a request that is filled in is its text, filled in. -/
theorem substitute_of_resolve (request : RequestTemplate) (body : BodyTemplate)
    (value? : String → Option Json) (resolved : ResolvedRequest)
    (hbody : request.body = some body) (h : request.resolve value? = .ok resolved) :
    ∃ text, resolved.body = some text ∧ substitute body.source value? = .ok text := by
  rw [resolve_eq, hbody] at h
  obtain ⟨path, -, h⟩ := ok_of_bind_eq_ok _ _ _ h
  obtain ⟨defaults, -, h⟩ := ok_of_bind_eq_ok _ _ _ h
  obtain ⟨headers, -, h⟩ := ok_of_bind_eq_ok _ _ _ h
  dsimp only [resolveBody] at h
  cases hs : substitute body.source value? with
  | error e =>
    rw [hs] at h
    cases h
  | ok text =>
    rw [hs] at h
    cases h
    exact ⟨text, rfl, rfl⟩

/-- A body that is a value is filled in as one: where every key it refers to stands for text without
quotes, backslashes and control characters, its text is read as the value with each of its strings
filled in by itself. -/
theorem body_resolved_as_json (request : RequestTemplate) (value : Json)
    (value? : String → Option Json) (resolved : ResolvedRequest)
    (hbody : request.body = some (.json value))
    (hfits : value.Fits (fun key => occurs "\x7b\x7b" key = false) Json.nestingLimit)
    (hresolved : request.resolve value? = .ok resolved)
    (hplain : ∀ keys, keysOf value.render = .ok keys → ∀ key ∈ keys, ∀ referred,
      value? key = some referred → ∀ c ∈ referred.splice.toList, Json.Unescaped c) :
    ∃ text filled, resolved.body = some text ∧
      value.mapStrings (fun string => substitute string value?) = .ok filled ∧
      Json.parse? text = some filled := by
  obtain ⟨text, htext, hsub⟩ : ∃ text, resolved.body = some text ∧
      substitute value.render value? = .ok text :=
    substitute_of_resolve request (.json value) value? resolved hbody hresolved
  obtain ⟨keys, hkeys, hset⟩ := (needs_substitute value.render).sets value? text hsub
  have hfilled := fills_of_substitute
    (fun key referred => value? key = some referred ∧
      ∀ c ∈ referred.splice.toList, Json.Unescaped c) value? value.render text keys hkeys hsub
    fun key hm referred hv => ⟨hv, hplain keys hkeys key hm referred hv⟩
  rw [Json.render, String.toList_ofList, ← List.append_nil value.write] at hfilled
  obtain ⟨filled, behind, hwhole, hmap, hfits', hnil⟩ :=
    Json.filledIn_of_fits value? _ (fun _ _ h => h.1) (fun _ _ h => h.2) (fun _ h => h)
      Json.nestingLimit value hfits [] text.toList hfilled
  have hbehind := eq_of_fills_plain _ [] behind rfl hnil
  have hrender : text = filled.render := by
    rw [Json.render, ← String.ofList_toList (s := text), hwhole, hbehind, List.append_nil]
  refine ⟨text, filled, htext, hmap, ?_⟩
  rw [hrender]
  exact Json.parse?_render _ filled hfits'

def ticketBody : Json :=
  .obj [("event", .obj [("id", .str "\x7b\x7b event_id \x7d\x7d"), ("seats", .int 3)]),
    ("notes", .arr [.str "\"\x7b\x7bname\x7d\x7d\"\n", .null, .str "\x7d\x7d"])]

def ticketRequest : RequestTemplate := (new .post "/tickets").withJson ticketBody

def ticketKnown (key : String) : Option Json :=
  if key = "event_id" then some (.int 7) else if key = "name" then some (.str "Ada") else none

theorem fits_ticketBody :
    ticketBody.Fits (fun key => occurs "\x7b\x7b" key = false) Json.nestingLimit := by
  refine .obj _ _ (by unfold Table.Ordered; decide) (by decide) ?_
  simp only [List.forall_mem_cons, List.not_mem_nil, false_imp_iff, implies_true, and_true]
  refine ⟨.obj _ _ (by unfold Table.Ordered; decide) (by decide) ?_, .arr _ _ ?_⟩
  · simp only [List.forall_mem_cons, List.not_mem_nil, false_imp_iff, implies_true, and_true]
    exact ⟨.str _ _, .int _ 3 (by decide) (by decide)⟩
  · simp only [List.forall_mem_cons, List.not_mem_nil, false_imp_iff, implies_true, and_true]
    exact ⟨.str _ _, .null _, .str _ _⟩

def ticketText : String :=
  "\x7b\"event\":\x7b\"id\":\"7\",\"seats\":3\x7d," ++
    "\"notes\":[\"\\\"Ada\\\"\\n\",null,\"\x7d\x7d\"]\x7d"

theorem body_resolved_as_json_ticket :
    ∃ text filled, some ticketText = some text ∧
      ticketBody.mapStrings (fun string => substitute string ticketKnown) = .ok filled ∧
      Json.parse? text = some filled := by
  have hkeys : keysOf ticketBody.render = .ok ["event_id", "name"] := by decide +kernel
  have hresolved : ticketRequest.resolve ticketKnown = .ok ⟨.post, "/tickets",
      [("Accept", "application/json"), ("Content-Type", "application/json")],
      some ticketText⟩ := by
    decide +kernel
  apply body_resolved_as_json ticketRequest ticketBody ticketKnown _ rfl fits_ticketBody hresolved
  intro keys hk
  rw [hkeys] at hk
  cases hk
  have hevent : ∀ c ∈ (Json.int 7).splice.toList, Json.Unescaped c := by
    rw [show (Json.int 7).splice.toList = ['7'] by decide +kernel]
    exact List.forall_mem_singleton.mpr (by decide)
  have hname : ∀ c ∈ (Json.str "Ada").splice.toList, Json.Unescaped c := by
    rw [show (Json.str "Ada").splice.toList = ['A', 'd', 'a'] by decide +kernel]
    simp only [List.forall_mem_cons, List.not_mem_nil, false_imp_iff, implies_true, and_true]
    decide
  simp only [List.forall_mem_cons, List.not_mem_nil, false_imp_iff, implies_true, and_true]
  constructor
  · rintro referred ⟨⟩
    exact hevent
  · rintro referred ⟨⟩
    exact hname

end RequestTemplate

end ApiTrial
