import ApiTrial.Proofs.TemplateGrammar

/-! Texts that are no templates. Reading stops at the first hole that is at fault; what stands in
front of it is a template, and what begins with it is refused for the same reason at its first
byte. Offsets are measured in bytes, so that each one is the size of the text in front of it. -/
namespace ApiTrial

/-- The first mark of a text comes first in every shorter text that still has it. -/
theorem Text.firstAt_of_append (mark before after back text : List Char)
    (h : FirstAt mark before (after ++ back) text) :
    FirstAt mark before after (before ++ mark ++ after) where
  eq := rfl
  first := by
    intro front rest he
    refine h.first front (rest ++ back) ?_
    rw [h.eq, ← List.append_assoc, he, List.append_assoc]

namespace Template
open Text

section Offsets

theorem width_append (front back : List Char) :
    width (front ++ back) = width front + width back := by
  induction front with
  | nil => exact (Nat.zero_add _).symm
  | cons c front ih => rw [List.cons_append, width, width, ih, Nat.add_assoc]

/-- The width of a text is its size in bytes. -/
theorem utf8ByteSize_eq_width (text : String) : text.utf8ByteSize = width text.toList := by
  have hlist (chars : List Char) : (String.ofList chars).utf8ByteSize = width chars := by
    induction chars with
    | nil => rfl
    | cons c chars ih =>
      rw [String.ofList_cons, String.utf8ByteSize_append, String.utf8ByteSize_singleton, ih, width]
  rw [← hlist, String.ofList_toList]

end Offsets

inductive Faulty : List Char → Fault → Prop
  | unclosed (after : List Char) (h : occursIn closeMark after = false) : Faulty after .unclosed
  | key (inside rest after : List Char) (fault : Fault)
      (hclose : FirstAt closeMark inside rest after) (hkey : key inside = .error fault) :
      Faulty after fault

/-- A hole that is at fault is faulted where it opens. -/
theorem readFrom_of_faulty (after : List Char) (fault : Fault) (start offset : Nat)
    (h : Faulty after fault) : readFrom (some start) [] offset after = .error (start, fault) := by
  cases h with
  | unclosed _ hnone => exact readFrom_unclosed [] offset start after hnone
  | key inside rest _ _ hclose hkey =>
    rw [readFrom_closing [] offset start inside rest after hclose, List.reverse_nil,
      List.nil_append, hkey]

/-- Behind an opening mark stands a hole, or something at fault. -/
theorem faulty_or_hole (after : List Char) :
    (∃ fault, Faulty after fault) ∨
      ∃ inside rest, FirstAt closeMark inside rest after ∧ IsKey (trimBlanks inside) := by
  cases hc : occursIn closeMark after with
  | false => exact Or.inl ⟨.unclosed, .unclosed after hc⟩
  | true =>
    obtain ⟨inside, rest, hclose⟩ := exists_firstAt closeMark after hc
    cases hk : key inside with
    | error fault => exact Or.inl ⟨fault, .key inside rest after fault hclose hk⟩
    | ok found =>
      obtain ⟨hkey, -⟩ := (key_eq_ok_iff inside found).mp hk
      exact Or.inr ⟨inside, rest, hclose, hkey⟩

/-- Reading stops at the first hole that is at fault, whatever stands in front of it. Each hole that
is not leaves a shorter text behind it, so the induction is on the length of the text. -/
theorem exists_faulty_of_readFrom (text : List Char) (offset start : Nat) (fault : Fault)
    (h : readFrom none [] offset text = .error (start, fault)) :
    ∃ front after slices, text = front ++ (openMark ++ after) ∧ start = offset + width front ∧
      Reads front slices ∧ Faulty after fault := by
  induction hn : text.length using Nat.strong_induction_on generalizing text offset with
  | _ n ih =>
    cases ho : occursIn openMark text with
    | false =>
      rw [readFrom_plain [] offset text ho] at h
      cases h
    | true =>
      obtain ⟨before, after, hopen⟩ := exists_firstAt openMark text ho
      rw [readFrom_opening [] offset before after text hopen] at h
      rcases faulty_or_hole after with ⟨found, hfaulty⟩ | ⟨inside, rest, hclose, hkey⟩
      · have hplain := not_occursIn_of_firstAt openMark before after text nofun hopen
        rw [readFrom_of_faulty after found _ _ hfaulty] at h
        cases h
        refine ⟨before, after, front before, ?_, rfl, .plain before hplain, hfaulty⟩
        rw [hopen.eq, List.append_assoc]
      · have hlt : rest.length < n := by
          rw [← hn, hopen.eq, hclose.eq]
          simp only [List.length_append, openMark, closeMark, List.length_cons]
          omega
        have hk := (key_eq_ok_iff inside _).mpr ⟨hkey, rfl⟩
        rw [readFrom_closing [] _ _ inside rest after hclose, List.reverse_nil, List.nil_append,
          hk] at h
        cases hr : readFrom none [] (offset + width before + 2 + width inside + 2) rest with
        | ok segments =>
          simp only [hr] at h
          cases h
        | error found =>
          simp only [hr] at h
          cases h
          obtain ⟨front, behind, slices, rfl, rfl, hreads, hfaulty⟩ :=
            ih rest.length hlt rest _ hr rfl
          have hclose' := firstAt_of_append closeMark inside front (openMark ++ behind) after hclose
          refine ⟨before ++ openMark ++ (inside ++ closeMark ++ front), behind, _, ?_, ?_,
            .hole before inside _ front _ slices ?_ hclose' hkey hreads, hfaulty⟩
          · rw [hopen.eq, hclose.eq]
            simp only [List.append_assoc]
          · have hopens : width openMark = 2 := rfl
            have hcloses : width closeMark = 2 := rfl
            simp only [width_append, hopens, hcloses]
            omega
          · refine firstAt_of_append openMark before _ (openMark ++ behind) text ?_
            rw [hclose.eq, ← List.append_assoc] at hopen
            exact hopen

/-- A text is refused at a hole. The offset is the size in bytes of what stands in front of the
hole, so it lies between two characters; what stands in front is a template; and what begins with
the hole is refused at its first byte for the same reason. -/
theorem parse_error_at_hole (source template : String) (offset : Nat) (reason : String)
    (h : parse source = .error (.malformedTemplate template offset reason)) :
    (⟨offset⟩ : String.Pos.Raw).IsValid source ∧
      ∃ front back, source = front ++ back ∧ front.utf8ByteSize = offset ∧
        openMark <+: back.toList ∧ (∃ template, parse front = .ok template) ∧
        parse back = .error (.malformedTemplate back 0 reason) := by
  rw [parse] at h
  cases hr : readFrom none [] 0 source.toList with
  | ok segments =>
    rw [hr] at h
    cases h
  | error refused =>
    obtain ⟨start, fault⟩ := refused
    rw [hr] at h
    cases h
    obtain ⟨front, after, slices, htext, hstart, hreads, hfaulty⟩ :=
      exists_faulty_of_readFrom source.toList 0 offset fault hr
    have hsource : source = String.ofList front ++ String.ofList (openMark ++ after) := by
      rw [← String.ofList_append, ← htext, String.ofList_toList]
    have hsize : (String.ofList front).utf8ByteSize = offset := by
      rw [utf8ByteSize_eq_width, String.toList_ofList, hstart, Nat.zero_add]
    refine ⟨?_, String.ofList front, String.ofList (openMark ++ after), hsource, hsize, ?_, ?_, ?_⟩
    · rw [String.Pos.Raw.isValid_iff_exists_append]
      exact ⟨_, _, hsource, congrArg _ hsize.symm⟩
    · rw [String.toList_ofList]
      exact ⟨after, rfl⟩
    · have hread := readFrom_of_reads front slices 0 hreads
      exact ⟨_, by rw [parse, String.toList_ofList, hread]⟩
    · have hhole := readFrom_opening [] 0 [] after _ (firstAt_here openMark after)
      rw [readFrom_of_faulty after fault _ _ hfaulty] at hhole
      rw [parse, String.toList_ofList]
      have hrefused : readFrom none [] 0 (openMark ++ after) = .error (0, fault) := hhole
      rw [hrefused]

def twoWords : String := "é\x7b\x7b id \x7d\x7d\x7bü\x7d\x7b\x7bticket type\x7d\x7d"

theorem parse_error_at_hole_twoWords :
    parse twoWords = .error (.malformedTemplate twoWords 14 Fault.badKey.message) ∧
    (⟨14⟩ : String.Pos.Raw).IsValid twoWords ∧
      ∃ front back, twoWords = front ++ back ∧ front.utf8ByteSize = 14 ∧
        openMark <+: back.toList ∧ (∃ template, parse front = .ok template) ∧
        parse back = .error (.malformedTemplate back 0 Fault.badKey.message) := by
  have hrefused : parse twoWords =
      .error (.malformedTemplate twoWords 14 Fault.badKey.message) := by decide +kernel
  exact ⟨hrefused, parse_error_at_hole twoWords twoWords 14 _ hrefused⟩

end Template

end ApiTrial
