import ApiTrial.Proofs.BodyFilled
import ApiTrial.Proofs.JsonNesting
import ApiTrial.Proofs.TemplateJoined

/-! Values that filling in leaves alone. No placeholder begins in a text of such a value. Between
its texts a brace stands before a quote or another kind of bracket only, and no escape has a brace
in it; so none begins in what is written of the value either, whatever stands behind it. -/
namespace ApiTrial.Json
open Template Text

/-- A value of at most `depth` levels that a text can hold, and in which no placeholder begins: not
in a text of it, and not in the name of a member. -/
inductive Literal : Nat → Json → Prop
  | null (depth : Nat) : Literal depth null
  | bool (depth : Nat) (value : Bool) : Literal depth (bool value)
  | int (depth : Nat) (value : Int) (least : -2 ^ 63 ≤ value) (most : value < 2 ^ 64) :
      Literal depth (int value)
  | str (depth : Nat) (text : String) (plain : occurs "\x7b\x7b" text = false) :
      Literal depth (str text)
  | arr (depth : Nat) (items : List Json) (literal : ∀ item ∈ items, Literal depth item) :
      Literal (depth + 1) (arr items)
  | obj (depth : Nat) (members : Table Json) (ordered : members.Ordered)
      (plain : ∀ member ∈ members, occurs "\x7b\x7b" member.1 = false)
      (literal : ∀ member ∈ members, Literal depth member.2) : Literal (depth + 1) (obj members)

namespace Literal
variable (depth : Nat) (value : Json) (h : Literal depth value)
include h

theorem fits : value.Fits (fun key => occurs "\x7b\x7b" key = false) depth := by
  induction h with
  | null depth => exact .null depth
  | bool depth value => exact .bool depth value
  | int depth value least most => exact .int depth value least most
  | str depth text plain => exact .str depth text
  | arr depth items literal ih => exact .arr depth items ih
  | obj depth members ordered plain literal ih => exact .obj depth members ordered plain ih

theorem mono (deeper : Nat) (hd : depth ≤ deeper) : Literal deeper value := by
  induction h generalizing deeper with
  | null depth => exact .null deeper
  | bool depth value => exact .bool deeper value
  | int depth value least most => exact .int deeper value least most
  | str depth text plain => exact .str deeper text plain
  | arr depth items literal ih =>
    obtain ⟨deeper, rfl⟩ := Nat.exists_eq_add_one.mpr (Nat.zero_lt_of_lt hd)
    exact .arr deeper items fun item hi => ih item hi deeper (Nat.le_of_succ_le_succ hd)
  | obj depth members ordered plain literal ih =>
    obtain ⟨deeper, rfl⟩ := Nat.exists_eq_add_one.mpr (Nat.zero_lt_of_lt hd)
    exact .obj deeper members ordered plain fun member hm =>
      ih member hm deeper (Nat.le_of_succ_le_succ hd)

end Literal

def Kept (text : List Char) : Prop :=
  ∀ (Holds : String → Json → Prop) (rest filled : List Char), Fills Holds (text ++ rest) filled →
    ∃ behind, filled = text ++ behind ∧ Fills Holds rest behind

theorem kept_append (front back : List Char) (hf : Kept front) (hb : Kept back) :
    Kept (front ++ back) := by
  intro Holds rest filled h
  rw [List.append_assoc] at h
  obtain ⟨middle, rfl, hm⟩ := hf Holds _ filled h
  obtain ⟨behind, rfl, hr⟩ := hb Holds rest middle hm
  exact ⟨behind, (List.append_assoc _ _ _).symm, hr⟩

theorem kept_of_not_mem (text : List Char) (ht : '\x7b' ∉ text) : Kept text :=
  fun _ rest filled h => fills_append text rest filled ht h

theorem kept_cons (c : Char) (text : List Char) (hc : ∀ rest, ¬ openMark <+: c :: (text ++ rest))
    (ht : Kept text) : Kept (c :: text) := by
  intro Holds rest filled h
  obtain ⟨after, rfl, ha⟩ := fills_cons c (text ++ rest) filled (hc rest) h
  obtain ⟨behind, rfl, hb⟩ := ht Holds rest after ha
  exact ⟨behind, rfl, hb⟩

/-- A brace before another character. -/
theorem kept_brace (c : Char) (text : List Char) (hc : c ≠ '\x7b') (ht : Kept (c :: text)) :
    Kept ('\x7b' :: c :: text) :=
  kept_cons '\x7b' (c :: text) (fun rest => not_opens_of_second_ne c (text ++ rest) hc) ht

/-- A text that is written up to its closing quote. -/
theorem kept_escaped (text : List Char) (ht : occursIn openMark text = false) :
    Kept (text.flatMap escapeChar ++ ['\x22']) := by
  induction text with
  | nil => exact kept_of_not_mem _ (by decide)
  | cons c text ih =>
    obtain ⟨hc, htext⟩ := not_occursIn_cons openMark text c ht
    rw [List.flatMap_cons, List.append_assoc]
    by_cases hu : Unescaped c
    · rw [escapeChar_of_unescaped c hu]
      refine kept_cons c _ (fun rest => ?_) (ih htext)
      rintro ⟨after, he⟩
      obtain ⟨rfl, hnext⟩ := List.cons.inj he
      cases text with
      | nil => exact absurd (List.cons.inj hnext).1 (by decide)
      | cons d text =>
        by_cases hd : Unescaped d
        · rw [List.flatMap_cons, escapeChar_of_unescaped d hd] at hnext
          obtain ⟨rfl, -⟩ := List.cons.inj hnext
          exact hc ⟨text, rfl⟩
        · obtain ⟨escape, hescape, -⟩ := escapeChar_of_escaped d hd
          rw [List.flatMap_cons, hescape] at hnext
          exact absurd (List.cons.inj hnext).1 (by decide)
    · obtain ⟨escape, -, hbrace⟩ := escapeChar_of_escaped c hu
      exact kept_append _ _ (kept_of_not_mem _ hbrace) (ih htext)

theorem kept_writeString (text : String) (ht : occurs "\x7b\x7b" text = false) :
    Kept (writeString text) :=
  kept_append ['\x22'] _ (kept_of_not_mem _ (by decide)) (kept_escaped text.toList ht)

theorem kept_writeItems (items : List Json) (h : ∀ item ∈ items, Kept (write item)) :
    Kept (writeItems items) := by
  induction items with
  | nil => exact kept_of_not_mem _ (by decide)
  | cons first items ih =>
    obtain ⟨hfirst, hitems⟩ := List.forall_mem_cons.mp h
    cases items with
    | nil =>
      rw [writeItems]
      exact hfirst
    | cons second items =>
      rw [writeItems_cons_cons]
      exact kept_append _ _ hfirst (kept_append [','] _ (kept_of_not_mem _ (by decide)) (ih hitems))

/-- Members that keep their text do so side by side. -/
theorem kept_writeMembers (members : Table Json)
    (hk : ∀ member ∈ members, occurs "\x7b\x7b" member.1 = false)
    (h : ∀ member ∈ members, Kept (write member.2)) : Kept (writeMembers members) := by
  induction members with
  | nil => exact kept_of_not_mem _ (by decide)
  | cons first members ih =>
    obtain ⟨key, value⟩ := first
    obtain ⟨hkey, hkeys⟩ := List.forall_mem_cons.mp hk
    obtain ⟨hvalue, hvalues⟩ := List.forall_mem_cons.mp h
    have hname := kept_append _ [':'] (kept_writeString key hkey) (kept_of_not_mem _ (by decide))
    cases members with
    | nil =>
      rw [writeMembers, List.append_cons]
      exact kept_append _ _ hname hvalue
    | cons second members =>
      rw [writeMembers_cons_cons, List.append_cons]
      exact kept_append _ _ hname
        (kept_append _ _ hvalue (kept_append [','] _ (kept_of_not_mem _ (by decide))
          (ih hkeys hvalues)))

/-- Filling in leaves the text of a literal value as it is. -/
theorem kept_write (depth : Nat) (value : Json) (h : Literal depth value) : Kept (write value) := by
  have hplain (text : List Char) (ht : '\x7b' ∉ text) : Kept text := kept_of_not_mem text ht
  induction h with
  | null depth => exact hplain _ (by decide)
  | bool depth value => cases value <;> exact hplain _ (by decide)
  | int depth value => exact hplain _ (not_mem_writeInt value)
  | str depth text plain => exact kept_writeString text plain
  | arr depth items literal ih =>
    exact kept_append ('[' :: _) _ (kept_append ['['] _ (hplain _ (by decide))
      (kept_writeItems items ih)) (hplain _ (by decide))
  | obj depth members ordered plain literal ih =>
    have hmembers := kept_append _ ['\x7d'] (kept_writeMembers members plain ih)
      (hplain _ (by decide))
    rw [write, List.cons_append]
    cases members with
    | nil => exact kept_brace '\x7d' [] (by decide) (hplain _ (by decide))
    | cons first members =>
      obtain ⟨text, hw⟩ := exists_writeMembers_eq first members
      rw [hw, List.cons_append] at hmembers ⊢
      exact kept_brace '\x22' _ (by decide) hmembers

/-- A placeholder of a key becomes the text of its value. -/
theorem exists_of_fills_hole (Holds : String → Json → Prop) (key : String) (rest filled : List Char)
    (hkey : IsKey key.toList)
    (h : Fills Holds (openMark ++ (key.toList ++ closeMark ++ rest)) filled) :
    ∃ value behind, Holds key value ∧ filled = value.splice.toList ++ behind ∧
      Fills Holds rest behind := by
  generalize ht : openMark ++ (key.toList ++ closeMark ++ rest) = text at h
  cases h with
  | nil => cases ht
  | char c tail filled hc hrest => exact absurd ⟨_, ht⟩ hc
  | hole inside tail after filled value hclose hinside hvalue hrest =>
    obtain rfl := List.append_cancel_left ht
    obtain ⟨rfl, rfl⟩ := firstAt_unique _ _ _ _ _ _ hclose
      (firstAt_of_not_mem '\x7d' ['\x7d'] key.toList rest (brace_not_mem_key _ hkey))
    rw [trimBlanks_of_isKey _ hkey, String.ofList_toList] at hvalue
    exact ⟨value, filled, hvalue, rfl, hrest⟩

/-- What comes of the text of a value, told character by character. -/
theorem fills_write (value? : String → Option Json) (value : Json) (text : String)
    (h : substitute value.render value? = .ok text) :
    Fills (fun key referred => value? key = some referred) value.write text.toList := by
  obtain ⟨keys, hkeys, -⟩ := (needs_substitute value.render).sets value? text h
  have hfilled := fills_of_substitute (fun key referred => value? key = some referred) value?
    value.render text keys hkeys h fun _ _ _ hv => hv
  rwa [render, String.toList_ofList] at hfilled

/-- The text of a literal value is filled in with itself. -/
theorem eq_render_of_literal (value? : String → Option Json) (depth : Nat) (value : Json)
    (text : String) (hv : Literal depth value) (h : substitute value.render value? = .ok text) :
    text = value.render := by
  have hfills := fills_write value? value text h
  rw [← List.append_nil value.write] at hfills
  obtain ⟨behind, he, hb⟩ := kept_write depth value hv _ _ _ hfills
  rw [eq_of_fills_plain _ [] behind rfl hb, List.append_nil] at he
  rw [render, ← he, String.ofList_toList]

/-- For a closed text the check is one evaluation, without a search over all characters. -/
theorem unescaped_of_all (text : List Char) (h : text.all (fun c => decide (Unescaped c)) = true) :
    ∀ c ∈ text, Unescaped c := by
  simpa using h

/-- The value of a text whose nesting is limited as given, as it is for `parse?` by its own limit. -/
def parseWithin? (limit : Nat) (text : String) : Option Json :=
  match readValue limit (text.toList.length + 1) text.toList with
  | some (value, rest) => if (skipBlanks rest).isEmpty then some value else none
  | none => none

/-- Values are read back from their texts by all who read as many levels. -/
theorem parseWithin?_render (Named : String → Prop) (limit : Nat) (value : Json)
    (h : value.Fits Named limit) : parseWithin? limit value.render = some value := by
  have hback := readsBack_of_fits Named limit value h ((write value).length + 1) []
    (Nat.lt_succ_self _) nofun
  rw [List.append_nil] at hback
  rw [parseWithin?, render, String.toList_ofList, hback]
  rfl

end ApiTrial.Json
