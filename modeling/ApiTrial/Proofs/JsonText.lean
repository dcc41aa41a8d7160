import ApiTrial.Json.Parser
import ApiTrial.Json.Printer
import ApiTrial.Proofs.StoreHistory
import Mathlib.Algebra.Group.Int.Defs

/-! Values read back from their text. The text of a value is read by the branches that wrote it: a
number ends where no digit follows, a string at its first quote, an array or object at its last
bracket. What holds of all of a value's items holds of the list of them, so the induction is on the
value alone. -/
namespace ApiTrial.Json

/-- A value that a text can hold, at most `depth` levels deep: its numbers are integers of 64 bits,
and the members of its objects are in order, under keys that `Named` holds of. -/
inductive Fits (Named : String → Prop) : Nat → Json → Prop
  | null (depth : Nat) : Fits Named depth null
  | bool (depth : Nat) (value : Bool) : Fits Named depth (bool value)
  | int (depth : Nat) (value : Int) (least : -2 ^ 63 ≤ value) (most : value < 2 ^ 64) :
      Fits Named depth (int value)
  | str (depth : Nat) (text : String) : Fits Named depth (str text)
  | arr (depth : Nat) (items : List Json) (fits : ∀ item ∈ items, Fits Named depth item) :
      Fits Named (depth + 1) (arr items)
  | obj (depth : Nat) (members : Table Json) (ordered : members.Ordered)
      (named : ∀ member ∈ members, Named member.1)
      (fits : ∀ member ∈ members, Fits Named depth member.2) : Fits Named (depth + 1) (obj members)

def Parts (rest : List Char) : Prop :=
  ∀ c ∈ rest.head?, c.isDigit = false ∧ c ≠ '.' ∧ c ≠ 'e' ∧ c ≠ 'E'

section Numbers

theorem head?_writeNat_ne_zero (n : Nat) (h : 0 < n) : (writeNat n).head? ≠ some '0' := by
  have hdigit : ∀ d < 10, 0 < d → Nat.digitChar d ≠ '0' := by decide
  induction n using Nat.strong_induction_on with
  | _ n ih =>
    rw [writeNat]
    by_cases hn : n < 10
    · rw [Nat.toDigits_of_lt_base hn, List.head?_cons, ne_eq, Option.some.injEq]
      exact hdigit n hn h
    · -- The last digit is not the first one.
      have hpos : 0 < n / 10 := by omega
      have hfront := ih (n / 10) (by omega) hpos
      have hne : Nat.toDigits 10 (n / 10) ≠ [] := Nat.toDigits_ne_nil
      rw [Nat.toDigits_of_base_le (by decide) (not_lt.mp hn), List.head?_append_of_ne_nil _ hne]
      exact hfront

theorem le_ofDigitChars (digits : List Char) (n : Nat) : n ≤ Nat.ofDigitChars 10 digits n := by
  induction digits generalizing n with
  | nil => exact Nat.le_refl n
  | cons c rest ih =>
    rw [Nat.ofDigitChars_cons]
    have hle := ih (10 * n + (c.toNat - '0'.toNat))
    omega

/-- Digits whose value has 64 bits are all taken. -/
theorem fittingDigits_eq (digits : List Char) (value count : Nat)
    (h : Nat.ofDigitChars 10 digits value < UInt64.size) :
    fittingDigits value count digits =
      (Nat.ofDigitChars 10 digits value, count + digits.length) := by
  induction digits generalizing value count with
  | nil => rfl
  | cons c rest ih =>
    have hnext : value * 10 + (c.toNat - 48) = 10 * value + (c.toNat - '0'.toNat) := by
      rw [Nat.mul_comm value 10]
      rfl
    rw [Nat.ofDigitChars_cons] at h
    have hfits := lt_of_le_of_lt (le_ofDigitChars rest _) h
    rw [fittingDigits, hnext, if_pos hfits, ih _ _ h, Nat.ofDigitChars_cons, List.length_cons]
    congr 1
    omega

theorem number_writeNat (negative : Bool) (n : Nat) (h : n < UInt64.size)
    (hneg : negative = true → 0 < n ∧ n ≤ 2 ^ 63) :
    number negative (writeNat n) [] none = some (int (if negative then -n else n)) := by
  have hvalue : Nat.ofDigitChars 10 (writeNat n) 0 = n := Nat.ofDigitChars_ten_toDigits
  have htaken := fittingDigits_eq (writeNat n) 0 0 (by rw [hvalue]; exact h)
  rw [hvalue, Nat.zero_add] at htaken
  cases negative with
  | false => simp [number, htaken]
  | true =>
    obtain ⟨hpos, hmost⟩ := hneg rfl
    have hmost' : n ≤ Nat.pow 2 63 := hmost
    simp [number, htaken, hpos, hmost']

theorem takeWhile_writeNat (n : Nat) (rest : List Char) (h : Parts rest) :
    (writeNat n ++ rest).takeWhile Char.isDigit = writeNat n := by
  have hdigits : ∀ c ∈ writeNat n, c.isDigit = true := fun c hc =>
    Nat.isDigit_of_mem_toDigits (by decide) (by decide) hc
  have hrest : rest.takeWhile Char.isDigit = [] := by
    cases rest with
    | nil => rfl
    | cons c rest => rw [List.takeWhile_cons_of_neg (by simp [(h c rfl).1])]
  rw [List.takeWhile_append_of_pos hdigits, hrest, List.append_nil]

/-- A whole number is read up to the end of its digits. -/
theorem readNumber_writeNat (negative : Bool) (n : Nat) (rest : List Char) (h : Parts rest) :
    readNumber ((if negative then ['-'] else []) ++ (writeNat n ++ rest)) =
      (number negative (writeNat n) [] none).map fun value => (value, rest) := by
  have htake := takeWhile_writeNat n rest h
  have hne : writeNat n ≠ [] := Nat.toDigits_ne_nil
  have hlead : ((writeNat n).head? == some '0' && decide (1 < (writeNat n).length)) = false := by
    rcases Nat.eq_zero_or_pos n with rfl | hn
    · rfl
    · simp [head?_writeNat_ne_zero n hn]
  have hfraction : readFraction rest = some ([], rest) := by
    cases rest with
    | nil => rfl
    | cons c rest =>
      rw [readFraction]
      rintro r ⟨⟩
      exact (h '.' rfl).2.1 rfl
  have hwhole := List.isEmpty_eq_false_iff.mpr hne
  have hsign : ∀ r, writeNat n ++ rest ≠ '-' :: r := by
    intro r he
    rw [he, List.takeWhile_cons_of_neg (by decide)] at htake
    exact hne htake.symm
  cases negative <;>
    simp only [readNumber, Bool.false_eq_true, if_true, if_false, List.cons_append,
      List.nil_append, htake, List.drop_left, hwhole, hlead, Bool.or_false, hfraction,
      Option.bind_eq_bind, Option.bind_some]
  all_goals
    split
    · exact absurd rfl (h 'e' rfl).2.2.1
    · exact absurd rfl (h 'E' rfl).2.2.2
    · rw [Option.map_eq_bind]
      rfl

/-- A whole number is read back up to where its text ends. -/
theorem readNumber_writeInt (i : Int) (rest : List Char) (hleast : -2 ^ 63 ≤ i)
    (hmost : i < 2 ^ 64) (h : Parts rest) :
    readNumber (writeInt i ++ rest) = some (int i, rest) := by
  rw [writeInt]
  by_cases hi : i < 0
  · have hsize : i.natAbs < UInt64.size := by
      rw [show UInt64.size = 2 ^ 64 from rfl]
      omega
    have hread := readNumber_writeNat true i.natAbs rest h
    rw [number_writeNat true _ hsize (fun _ => by omega)] at hread
    have hvalue : -(i.natAbs : Int) = i := by omega
    rw [if_pos hi]
    simp only [if_true, hvalue] at hread
    exact hread
  · have hsize : i.natAbs < UInt64.size := by
      rw [show UInt64.size = 2 ^ 64 from rfl]
      omega
    have hread := readNumber_writeNat false i.natAbs rest h
    rw [number_writeNat false _ hsize (fun hf => absurd hf Bool.false_ne_true)] at hread
    have hvalue : (i.natAbs : Int) = i := by omega
    rw [if_neg hi]
    simpa [hvalue] using hread

end Numbers

section Strings

/-- The digits of a control character stand for it. -/
theorem hexValue4?_control (n : Nat) (h : n < 0x20) :
    hexValue4? '0' '0' (hexDigit (n / 16)) (hexDigit (n % 16)) = some n := by
  have hall : ∀ n < 0x20,
      hexValue4? '0' '0' (hexDigit (n / 16)) (hexDigit (n % 16)) = some n := by decide +kernel
  exact hall n h

theorem readString_quote (acc rest : List Char) :
    readString acc ('\x22' :: rest) = some (String.ofList acc.reverse, rest) := by
  rw [readString.eq_def]
  rfl

theorem readString_escaped (acc rest : List Char) (e c : Char) (he : e ≠ 'u')
    (h : escaped? e = some c) :
    readString acc ('\\' :: e :: rest) = readString (c :: acc) rest := by
  rw [readString.eq_def]
  simp [he, h]

/-- Each character of a string is read back, escaped or not. -/
theorem readString_escapeChar (acc : List Char) (c : Char) (rest : List Char) :
    readString acc (escapeChar c ++ rest) = readString (c :: acc) rest := by
  rw [escapeChar]
  split_ifs with hquote hslash hb ht hn hf hr hcontrol
  · exact hquote ▸ readString_escaped acc rest '\x22' _ (by decide) rfl
  · exact hslash ▸ readString_escaped acc rest '\\' _ (by decide) rfl
  · exact hb ▸ readString_escaped acc rest _ _ (by decide) rfl
  · exact ht ▸ readString_escaped acc rest _ _ (by decide) rfl
  · exact hn ▸ readString_escaped acc rest _ _ (by decide) rfl
  · exact hf ▸ readString_escaped acc rest _ _ (by decide) rfl
  · exact hr ▸ readString_escaped acc rest _ _ (by decide) rfl
  · have hlow : c.toNat < 0xD800 := by omega
    rw [readString.eq_def]
    simp [hexValue4?_control c.toNat hcontrol, hlow]
  · show readString acc (c :: rest) = _
    rw [readString.eq_def]
    simp [hquote, hslash, hcontrol]

/-- A text is read up to the quote behind it. -/
theorem readString_flatMap (acc text rest : List Char) :
    readString acc (text.flatMap escapeChar ++ '\x22' :: rest) =
      some (String.ofList (acc.reverse ++ text), rest) := by
  induction text generalizing acc with
  | nil => rw [List.flatMap_nil, List.nil_append, readString_quote, List.append_nil]
  | cons c text ih =>
    rw [List.flatMap_cons, List.append_assoc, readString_escapeChar, ih, List.reverse_cons,
      List.append_assoc]
    rfl

theorem readString_writeString (text : String) (rest : List Char) :
    ∃ quoted, writeString text ++ rest = '\x22' :: quoted ∧
      readString [] quoted = some (text, rest) := by
  refine ⟨text.toList.flatMap escapeChar ++ '\x22' :: rest, ?_, ?_⟩
  · simp [writeString]
  · rw [readString_flatMap, List.reverse_nil, List.nil_append, String.ofList_toList]

end Strings

section Values

theorem parts_cons (c : Char) (rest : List Char)
    (h : c.isDigit = false ∧ c ≠ '.' ∧ c ≠ 'e' ∧ c ≠ 'E') : Parts (c :: rest) := by
  rintro d ⟨⟩
  exact h

theorem skipBlanks_cons (c : Char) (rest : List Char)
    (h : ¬ (c = ' ' ∨ c = '\n' ∨ c = '\t' ∨ c = '\r')) : skipBlanks (c :: rest) = c :: rest := by
  rw [skipBlanks, if_neg h]

/-- A number begins with a sign or a digit. -/
theorem exists_writeInt_eq (i : Int) :
    ∃ c rest, writeInt i = c :: rest ∧ (c = '-' ∨ c.isDigit = true) := by
  rw [writeInt]
  split_ifs
  · exact ⟨_, _, rfl, Or.inl rfl⟩
  · have hdigits : Nat.toDigits 10 i.natAbs ≠ [] := Nat.toDigits_ne_nil
    obtain ⟨c, rest, h⟩ := List.exists_cons_of_ne_nil hdigits
    have hc : c ∈ Nat.toDigits 10 i.natAbs := by
      rw [h]
      exact List.mem_cons_self
    exact ⟨c, rest, h, Or.inr (Nat.isDigit_of_mem_toDigits (by decide) (by decide) hc)⟩

/-- A value begins with neither a blank nor a closing bracket. -/
theorem exists_write_eq (Named : String → Prop) (depth : Nat) (value : Json)
    (h : value.Fits Named depth) :
    ∃ c rest, write value = c :: rest ∧ ¬ (c = ' ' ∨ c = '\n' ∨ c = '\t' ∨ c = '\r') ∧
      c ≠ ']' := by
  cases h with
  | null => exact ⟨_, _, rfl, by decide, by decide⟩
  | bool depth value => cases value <;> exact ⟨_, _, rfl, by decide, by decide⟩
  | int depth i =>
    obtain ⟨c, rest, hw, hc⟩ := exists_writeInt_eq i
    refine ⟨c, rest, by rw [write, hw], ?_, ?_⟩
    · rintro (rfl | rfl | rfl | rfl) <;> exact absurd hc (by decide)
    · rintro rfl
      exact absurd hc (by decide)
  | str depth text =>
    exact ⟨_, _, by rw [write, writeString, List.cons_append], by decide, by decide⟩
  | arr depth items => exact ⟨_, _, by rw [write, List.cons_append], by decide, by decide⟩
  | obj depth members => exact ⟨_, _, by rw [write, List.cons_append], by decide, by decide⟩

theorem readValue_writeInt (depth fuel : Nat) (i : Int) (rest : List Char) (hleast : -2 ^ 63 ≤ i)
    (hmost : i < 2 ^ 64) (h : Parts rest) :
    readValue depth (fuel + 1) (writeInt i ++ rest) = some (int i, rest) := by
  have hnumber := readNumber_writeInt i rest hleast hmost h
  obtain ⟨c, digits, hw, hc⟩ := exists_writeInt_eq i
  have hblank : ¬ (c = ' ' ∨ c = '\n' ∨ c = '\t' ∨ c = '\r') := by
    rintro (rfl | rfl | rfl | rfl) <;> exact absurd hc (by decide)
  rw [hw, List.cons_append] at hnumber ⊢
  rw [readValue, skipBlanks_cons c _ hblank]
  split
  case h_7 => exact hnumber
  all_goals
    rename_i he
    cases (List.cons.inj he).1
    exact absurd hc (by decide)

theorem writeItems_cons_cons (first second : Json) (items : List Json) :
    writeItems (first :: second :: items) =
      write first ++ ',' :: writeItems (second :: items) := by
  simp only [writeItems]

theorem writeMembers_cons_cons (key : String) (value : Json) (second : String × Json)
    (members : Table Json) :
    writeMembers ((key, value) :: second :: members) =
      writeString key ++ ':' :: (write value ++ ',' :: writeMembers (second :: members)) := by
  simp only [writeMembers, List.append_assoc, List.cons_append]

def ReadsBack (depth : Nat) (value : Json) : Prop :=
  ∀ fuel rest, (write value).length < fuel → Parts rest →
    readValue depth fuel (write value ++ rest) = some (value, rest)

/-- A list is read back if each of its items is. -/
theorem readItems_writeItems (depth : Nat) (first : Json) (items : List Json)
    (h : ∀ item ∈ first :: items, ReadsBack depth item) (fuel : Nat) (rest : List Char)
    (hf : (writeItems (first :: items)).length + 1 < fuel) :
    readItems depth fuel (writeItems (first :: items) ++ ']' :: rest) =
      some (first :: items, rest) := by
  induction items generalizing first fuel with
  | nil =>
    obtain ⟨fuel, rfl⟩ := Nat.exists_eq_add_one.mpr (Nat.zero_lt_of_lt hf)
    rw [writeItems] at hf ⊢
    have hread := h first List.mem_cons_self fuel (']' :: rest) (by omega)
      (parts_cons _ _ (by decide))
    rw [readItems, hread]
    simp only [skipBlanks_cons ']' _ (by decide)]
  | cons second items ih =>
    obtain ⟨fuel, rfl⟩ := Nat.exists_eq_add_one.mpr (Nat.zero_lt_of_lt hf)
    rw [writeItems_cons_cons, List.length_append, List.length_cons] at hf
    obtain ⟨hfirst, hitems⟩ := List.forall_mem_cons.mp h
    have hread := hfirst fuel (',' :: (writeItems (second :: items) ++ ']' :: rest)) (by omega)
      (parts_cons _ _ (by decide))
    have hback := ih second hitems fuel (by omega)
    rw [writeItems_cons_cons, List.append_assoc, List.cons_append, readItems, hread]
    simp only [skipBlanks_cons ',' _ (by decide), hback, Option.map_some]

/-- An object is read back if each of its values is. -/
theorem readMembers_writeMembers (depth : Nat) (first : String × Json) (members : Table Json)
    (h : ∀ member ∈ first :: members, ReadsBack depth member.2) (fuel : Nat) (rest : List Char)
    (hf : (writeMembers (first :: members)).length + 1 < fuel) :
    readMembers depth fuel (writeMembers (first :: members) ++ '\x7d' :: rest) =
      some (first :: members, rest) := by
  induction members generalizing first fuel with
  | nil =>
    obtain ⟨fuel, rfl⟩ := Nat.exists_eq_add_one.mpr (Nat.zero_lt_of_lt hf)
    obtain ⟨key, value⟩ := first
    have hvalue : ReadsBack depth value := h (key, value) List.mem_cons_self
    simp only [writeMembers, List.length_append, List.length_cons] at hf
    have hread := hvalue fuel ('\x7d' :: rest) (by omega) (parts_cons _ _ (by decide))
    obtain ⟨quoted, hw, hk⟩ :=
      readString_writeString key (':' :: (write value ++ '\x7d' :: rest))
    rw [writeMembers, List.append_assoc, List.cons_append, hw, readMembers,
      skipBlanks_cons _ _ (by decide)]
    simp only [hk, skipBlanks_cons ':' _ (by decide), hread, skipBlanks_cons '\x7d' _ (by decide)]
  | cons second members ih =>
    obtain ⟨fuel, rfl⟩ := Nat.exists_eq_add_one.mpr (Nat.zero_lt_of_lt hf)
    obtain ⟨key, value⟩ := first
    obtain ⟨hvalue, hmembers⟩ := List.forall_mem_cons.mp h
    have hvalue : ReadsBack depth value := hvalue
    simp only [writeMembers_cons_cons, List.length_append, List.length_cons] at hf
    have hread := hvalue fuel (',' :: (writeMembers (second :: members) ++ '\x7d' :: rest))
      (by omega) (parts_cons _ _ (by decide))
    have hback := ih second hmembers fuel (by omega)
    obtain ⟨quoted, hw, hk⟩ := readString_writeString key
      (':' :: (write value ++ ',' :: (writeMembers (second :: members) ++ '\x7d' :: rest)))
    have htext : writeMembers ((key, value) :: second :: members) ++ '\x7d' :: rest =
        writeString key ++ ':' :: (write value ++
          ',' :: (writeMembers (second :: members) ++ '\x7d' :: rest)) := by
      simp only [writeMembers_cons_cons, List.append_assoc, List.cons_append]
    rw [htext, hw, readMembers, skipBlanks_cons _ _ (by decide)]
    simp only [hk, skipBlanks_cons ':' _ (by decide), hread, skipBlanks_cons ',' _ (by decide),
      hback, Option.map_some]

theorem ofMembers_of_ordered (members : Table Json) (h : members.Ordered) :
    ofMembers members = obj members := by
  rw [ofMembers, Table.ofEntries_of_ordered members h]

/-- A list of values begins as its first value does. -/
theorem exists_writeItems_eq (Named : String → Prop) (depth : Nat) (first : Json)
    (items : List Json) (h : first.Fits Named depth) :
    ∃ c rest, writeItems (first :: items) = c :: rest ∧
      ¬ (c = ' ' ∨ c = '\n' ∨ c = '\t' ∨ c = '\r') ∧ c ≠ ']' := by
  obtain ⟨c, rest, hw, hc⟩ := exists_write_eq Named depth first h
  cases items with
  | nil => exact ⟨c, rest, by rw [writeItems, hw], hc⟩
  | cons second items => exact ⟨c, _, by rw [writeItems_cons_cons, hw, List.cons_append], hc⟩

theorem exists_writeMembers_eq (first : String × Json) (members : Table Json) :
    ∃ rest, writeMembers (first :: members) = '\x22' :: rest := by
  obtain ⟨key, value⟩ := first
  cases members with
  | nil => exact ⟨_, by rw [writeMembers, writeString, List.cons_append, List.cons_append]⟩
  | cons second members =>
    exact ⟨_, by rw [writeMembers_cons_cons, writeString, List.cons_append, List.cons_append]⟩

theorem readValue_arr (depth fuel : Nat) (c : Char) (text : List Char)
    (hblank : ¬ (c = ' ' ∨ c = '\n' ∨ c = '\t' ∨ c = '\r')) (hclose : c ≠ ']') :
    readValue (depth + 1) (fuel + 1) ('[' :: c :: text) =
      (readItems depth fuel (c :: text)).map fun read => (arr read.1, read.2) := by
  rw [readValue, skipBlanks_cons '[' _ (by decide)]
  simp only [skipBlanks_cons c _ hblank, Nat.add_one_ne_zero, if_false]
  split
  · rename_i he
    exact absurd (List.cons.inj he).1 hclose
  · rfl

theorem readValue_obj (depth fuel : Nat) (text : List Char) :
    readValue (depth + 1) (fuel + 1) ('\x7b' :: '\x22' :: text) =
      (readMembers depth fuel ('\x22' :: text)).map fun read =>
        (ofMembers read.1, read.2) := by
  rw [readValue, skipBlanks_cons '\x7b' _ (by decide)]
  simp only [skipBlanks_cons '\x22' _ (by decide), Nat.add_one_ne_zero, if_false]
  rfl

theorem readsBack_of_succ (depth : Nat) (value : Json)
    (h : ∀ fuel rest, (write value).length ≤ fuel → Parts rest →
      readValue depth (fuel + 1) (write value ++ rest) = some (value, rest)) :
    ReadsBack depth value := by
  intro fuel rest hf hparts
  obtain ⟨fuel, rfl⟩ := Nat.exists_eq_add_one.mpr (Nat.zero_lt_of_lt hf)
  exact h fuel rest (Nat.le_of_lt_succ hf) hparts

/-- Values are read back from their texts. -/
theorem readsBack_of_fits (Named : String → Prop) (depth : Nat) (value : Json)
    (h : value.Fits Named depth) : ReadsBack depth value := by
  induction h with
  | null depth =>
    apply readsBack_of_succ
    intro fuel rest _ _
    rw [readValue]
    rfl
  | bool depth value =>
    apply readsBack_of_succ
    intro fuel rest _ _
    cases value <;> (rw [readValue]; rfl)
  | int depth i hleast hmost =>
    apply readsBack_of_succ
    intro fuel rest _ hparts
    exact readValue_writeInt depth fuel i rest hleast hmost hparts
  | str depth text =>
    apply readsBack_of_succ
    intro fuel rest _ _
    obtain ⟨quoted, hw, hread⟩ := readString_writeString text rest
    rw [write, hw, readValue, skipBlanks_cons _ _ (by decide)]
    simp only [hread, Option.map_some]
  | arr depth items fits ih =>
    apply readsBack_of_succ
    intro fuel rest hf _
    rw [write, List.append_assoc, List.cons_append]
    cases items with
    | nil => rfl
    | cons first items =>
      simp only [write, List.length_append, List.length_cons, List.length_nil] at hf
      have hback := readItems_writeItems depth first items ih fuel rest (by omega)
      obtain ⟨c, text, hw, hblank, hclose⟩ :=
        exists_writeItems_eq Named depth first items (fits first List.mem_cons_self)
      rw [hw, List.cons_append] at hback ⊢
      rw [readValue_arr depth fuel c _ hblank hclose]
      show (readItems depth fuel (c :: (text ++ ']' :: rest))).map _ = _
      rw [hback]
      rfl
  | obj depth members ordered named fits ih =>
    apply readsBack_of_succ
    intro fuel rest hf _
    rw [write, List.append_assoc, List.cons_append]
    cases members with
    | nil => rfl
    | cons first members =>
      simp only [write, List.length_append, List.length_cons, List.length_nil] at hf
      have hback := readMembers_writeMembers depth first members ih fuel rest (by omega)
      obtain ⟨text, hw⟩ := exists_writeMembers_eq first members
      rw [hw, List.cons_append] at hback ⊢
      rw [readValue_obj depth fuel]
      show (readMembers depth fuel ('\x22' :: (text ++ '\x7d' :: rest))).map _ = _
      rw [hback, Option.map_some, ofMembers_of_ordered _ ordered]

/-- A value that a text can hold is what its text is parsed to. -/
theorem parse?_render (Named : String → Prop) (value : Json)
    (h : value.Fits Named nestingLimit) : parse? value.render = some value := by
  have hback := readsBack_of_fits Named nestingLimit value h ((write value).length + 1) []
    (Nat.lt_succ_self _) nofun
  rw [List.append_nil] at hback
  rw [parse?, render, String.toList_ofList, hback]
  rfl

end Values

end ApiTrial.Json
