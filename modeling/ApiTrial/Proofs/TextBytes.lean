import ApiTrial.Text.Utf8
import Mathlib.Data.UInt
import Mathlib.Tactic.SplitIfs

/-! Texts read back from their bytes. The lead byte of a character tells how many bytes follow it
and which the first of them may be; that excludes exactly what no character is written as, so each
of the four forms is read as it was written. -/
namespace ApiTrial.Text

theorem leadByte?_eq (b : UInt8) : leadByte? b =
    if b.toNat < 0xC2 then none
    else if b.toNat < 0xE0 then some (1, 0x80, 0xBF)
    else if b.toNat = 0xE0 then some (2, 0xA0, 0xBF)
    else if b.toNat = 0xED then some (2, 0x80, 0x9F)
    else if b.toNat < 0xF0 then some (2, 0x80, 0xBF)
    else if b.toNat = 0xF0 then some (3, 0x90, 0xBF)
    else if b.toNat < 0xF4 then some (3, 0x80, 0xBF)
    else if b.toNat = 0xF4 then some (3, 0x80, 0x8F)
    else none := by
  simp only [leadByte?, UInt8.lt_iff_toNat_lt, ← UInt8.toNat_inj]
  rfl

theorem toNat_ofNat_of_lt (n : Nat) (h : n < 256) : (UInt8.ofNat n).toNat = n := by
  simp [UInt8.toNat_ofNat', Nat.mod_eq_of_lt h]

/-- A byte that is written for six bits of a character gives them back. -/
theorem tail_ofNat (n : Nat) : isTailByte (UInt8.ofNat (n % 64 + 128)) = true ∧
    tailBits (UInt8.ofNat (n % 64 + 128)) = n % 64 := by
  have h := toNat_ofNat_of_lt (n % 64 + 128) (by omega)
  have hlow : (0x80 : UInt8) ≤ UInt8.ofNat (n % 64 + 128) := by
    rw [UInt8.le_iff_toNat_le, h]
    exact Nat.le_add_left 128 _
  have hhigh : UInt8.ofNat (n % 64 + 128) ≤ 0xBF := by
    rw [UInt8.le_iff_toNat_le, h]
    show _ ≤ 191
    omega
  refine ⟨by rw [isTailByte, decide_eq_true hlow, decide_eq_true hhigh, Bool.and_self], ?_⟩
  rw [tailBits, h]
  omega

theorem not_lt_of_lead (n : Nat) (h : 0xC0 ≤ n) (h' : n < 256) : ¬ UInt8.ofNat n < 0x80 := by
  rw [UInt8.lt_iff_toNat_lt, toNat_ofNat_of_lt n h']
  show ¬ n < 128
  omega

theorem readBytes_two (v : Nat) (rest : List UInt8) (h : 0x80 ≤ v) (h' : v ≤ 0x7FF) :
    readBytes (UInt8.ofNat (v / 64 % 32 + 192) :: UInt8.ofNat (v % 64 + 128) :: rest) =
      some (Char.ofNat v) :: readBytes rest := by
  have hb := toNat_ofNat_of_lt (v / 64 % 32 + 192) (by omega)
  have hhigh := not_lt_of_lead (v / 64 % 32 + 192) (by omega) (by omega)
  have hlead : leadByte? (UInt8.ofNat (v / 64 % 32 + 192)) = some (1, 0x80, 0xBF) := by
    rw [leadByte?_eq, hb, if_neg (by omega), if_pos (by omega)]
  obtain ⟨ht, hbits⟩ := tail_ofNat v
  rw [isTailByte] at ht
  have hv : (v / 64 % 32 + 192) % 32 * 64 + v % 64 = v := by omega
  rw [readBytes.eq_def]
  simp only [hhigh, if_false, hlead, ht, Bool.not_true, Bool.false_eq_true, if_true, hb, hbits, hv]

/-- Three bytes are read back as the character that they were written for. -/
theorem readBytes_three (v : Nat) (rest : List UInt8) (h : 0x800 ≤ v) (h' : v ≤ 0xFFFF)
    (hs : v < 0xD800 ∨ 0xDFFF < v) :
    readBytes (UInt8.ofNat (v / 4096 % 16 + 224) :: UInt8.ofNat (v / 64 % 64 + 128) ::
      UInt8.ofNat (v % 64 + 128) :: rest) = some (Char.ofNat v) :: readBytes rest := by
  have hb := toNat_ofNat_of_lt (v / 4096 % 16 + 224) (by omega)
  have hb₁ := toNat_ofNat_of_lt (v / 64 % 64 + 128) (by omega)
  have hhigh := not_lt_of_lead (v / 4096 % 16 + 224) (by omega) (by omega)
  obtain ⟨lo, hi, hlead, hrange⟩ : ∃ lo hi,
      leadByte? (UInt8.ofNat (v / 4096 % 16 + 224)) = some (2, lo, hi) ∧
      (decide (lo ≤ UInt8.ofNat (v / 64 % 64 + 128)) &&
        decide (UInt8.ofNat (v / 64 % 64 + 128) ≤ hi)) = true := by
    simp only [leadByte?_eq, hb, Bool.and_eq_true, decide_eq_true_eq, UInt8.le_iff_toNat_le, hb₁]
    by_cases hfirst : v / 4096 % 16 + 224 = 0xE0
    · refine ⟨0xA0, 0xBF, ?_, ?_, ?_⟩
      · rw [if_neg (by omega), if_neg (by omega), if_pos hfirst]
      · show 160 ≤ _
        omega
      · show _ ≤ 191
        omega
    · by_cases hlast : v / 4096 % 16 + 224 = 0xED
      · refine ⟨0x80, 0x9F, ?_, ?_, ?_⟩
        · rw [if_neg (by omega), if_neg (by omega), if_neg hfirst, if_pos hlast]
        · show 128 ≤ _
          omega
        · show _ ≤ 159
          omega
      · refine ⟨0x80, 0xBF, ?_, ?_, ?_⟩
        · rw [if_neg (by omega), if_neg (by omega), if_neg hfirst, if_neg hlast, if_pos (by omega)]
        · show 128 ≤ _
          omega
        · show _ ≤ 191
          omega
  obtain ⟨-, hbits₁⟩ := tail_ofNat (v / 64)
  obtain ⟨ht₂, hbits₂⟩ := tail_ofNat v
  have hv : ((v / 4096 % 16 + 224) % 16 * 64 + v / 64 % 64) * 64 + v % 64 = v := by omega
  rw [readBytes.eq_def]
  simp only [hhigh, if_false, hlead, hrange, ht₂, Bool.not_true, Bool.false_eq_true,
    if_true, hb, hbits₁, hbits₂, hv, OfNat.ofNat_ne_one]

/-- Four bytes are read back as the character that they were written for. -/
theorem readBytes_four (v : Nat) (rest : List UInt8) (h : 0x10000 ≤ v) (h' : v ≤ 0x10FFFF) :
    readBytes (UInt8.ofNat (v / 262144 % 8 + 240) :: UInt8.ofNat (v / 4096 % 64 + 128) ::
      UInt8.ofNat (v / 64 % 64 + 128) :: UInt8.ofNat (v % 64 + 128) :: rest) =
        some (Char.ofNat v) :: readBytes rest := by
  have hb := toNat_ofNat_of_lt (v / 262144 % 8 + 240) (by omega)
  have hb₁ := toNat_ofNat_of_lt (v / 4096 % 64 + 128) (by omega)
  have hhigh := not_lt_of_lead (v / 262144 % 8 + 240) (by omega) (by omega)
  obtain ⟨lo, hi, hlead, hrange⟩ : ∃ lo hi,
      leadByte? (UInt8.ofNat (v / 262144 % 8 + 240)) = some (3, lo, hi) ∧
      (decide (lo ≤ UInt8.ofNat (v / 4096 % 64 + 128)) &&
        decide (UInt8.ofNat (v / 4096 % 64 + 128) ≤ hi)) = true := by
    simp only [leadByte?_eq, hb, Bool.and_eq_true, decide_eq_true_eq, UInt8.le_iff_toNat_le, hb₁]
    rw [if_neg (by omega), if_neg (by omega), if_neg (by omega), if_neg (by omega),
      if_neg (by omega)]
    by_cases hfirst : v / 262144 % 8 + 240 = 0xF0
    · refine ⟨0x90, 0xBF, by rw [if_pos hfirst], ?_, ?_⟩
      · show 144 ≤ _
        omega
      · show _ ≤ 191
        omega
    · by_cases hlast : v / 262144 % 8 + 240 = 0xF4
      · refine ⟨0x80, 0x8F, by rw [if_neg hfirst, if_neg (by omega), if_pos hlast], ?_, ?_⟩
        · show 128 ≤ _
          omega
        · show _ ≤ 143
          omega
      · refine ⟨0x80, 0xBF, by rw [if_neg hfirst, if_pos (by omega)], ?_, ?_⟩
        · show 128 ≤ _
          omega
        · show _ ≤ 191
          omega
  obtain ⟨-, hbits₁⟩ := tail_ofNat (v / 4096)
  obtain ⟨ht₂, hbits₂⟩ := tail_ofNat (v / 64)
  obtain ⟨ht₃, hbits₃⟩ := tail_ofNat v
  have hv : (((v / 262144 % 8 + 240) % 8 * 64 + v / 4096 % 64) * 64 + v / 64 % 64) * 64 + v % 64
      = v := by omega
  rw [readBytes.eq_def]
  simp only [hhigh, if_false, hlead, hrange, ht₂, ht₃, Bool.not_true, Bool.false_eq_true, hb,
    hbits₁, hbits₂, hbits₃, hv, OfNat.ofNat_ne_one, Nat.reduceEqDiff]

/-- A character is read back from its bytes. -/
theorem readBytes_utf8EncodeChar (c : Char) (rest : List UInt8) :
    readBytes (String.utf8EncodeChar c ++ rest) = some c :: readBytes rest := by
  have hc : Char.ofNat c.val.toNat = c := Char.ofNat_toNat c
  have hvalid : c.val.toNat < 0xD800 ∨ 0xDFFF < c.val.toNat ∧ c.val.toNat < 0x110000 := c.valid
  rw [String.utf8EncodeChar]
  split_ifs with hone htwo hthree
  · have hlow : UInt8.ofNat c.val.toNat < 0x80 := by
      rw [UInt8.lt_iff_toNat_lt, toNat_ofNat_of_lt _ (by omega)]
      exact Nat.lt_succ_of_le hone
    rw [List.cons_append, readBytes.eq_def]
    simp only [hlow, if_true, toNat_ofNat_of_lt c.val.toNat (by omega), hc]
    rfl
  · have hread := readBytes_two c.val.toNat rest (by omega) htwo
    rwa [hc] at hread
  · have hread := readBytes_three c.val.toNat rest (by omega) hthree (by omega)
    rwa [hc] at hread
  · have hread := readBytes_four c.val.toNat rest (by omega) (by omega)
    rwa [hc] at hread

/-- A text is read back from its bytes. -/
theorem ofUtf8?_flatMap (text : List Char) :
    ofUtf8? (text.flatMap String.utf8EncodeChar) = some (String.ofList text) := by
  have hall : (text.map some).mapM id = some text := by
    induction text with
    | nil => rfl
    | cons c text ih =>
      rw [List.map_cons, List.mapM_cons, ih]
      rfl
  have hread : readBytes (text.flatMap String.utf8EncodeChar) = text.map some := by
    clear hall
    induction text with
    | nil => rw [List.flatMap_nil, readBytes, List.map_nil]
    | cons c text ih => rw [List.flatMap_cons, readBytes_utf8EncodeChar, ih, List.map_cons]
  rw [ofUtf8?, hread, hall]
  rfl

end ApiTrial.Text
