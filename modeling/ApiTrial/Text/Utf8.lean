/-!
Bytes and the characters they encode. A faulty stretch of bytes counts once: it is the longest
run that begins a character and does not end it.
-/
namespace ApiTrial.Text

/-- The number of bytes that follow a lead byte, and the range of the first of them. -/
def leadByte? (b : UInt8) : Option (Nat × UInt8 × UInt8) :=
  if b < 0xC2 then none
  else if b < 0xE0 then some (1, 0x80, 0xBF)
  else if b = 0xE0 then some (2, 0xA0, 0xBF)
  else if b = 0xED then some (2, 0x80, 0x9F)
  else if b < 0xF0 then some (2, 0x80, 0xBF)
  else if b = 0xF0 then some (3, 0x90, 0xBF)
  else if b < 0xF4 then some (3, 0x80, 0xBF)
  else if b = 0xF4 then some (3, 0x80, 0x8F)
  else none

/-- A byte continues a character. -/
def isTailByte (b : UInt8) : Bool := decide (0x80 ≤ b) && decide (b ≤ 0xBF)

/-- The six low bits of a byte that continues a character. -/
def tailBits (b : UInt8) : Nat := b.toNat % 64

/-- The characters of a byte sequence, `none` standing for each faulty stretch. -/
def readBytes : List UInt8 → List (Option Char)
  | [] => []
  | b :: r =>
    if b < 0x80 then some (Char.ofNat b.toNat) :: readBytes r else
    match leadByte? b, r with
    | none, r => none :: readBytes r
    | some _, [] => [none]
    | some (n, lo, hi), b₁ :: r₁ =>
      if !(decide (lo ≤ b₁) && decide (b₁ ≤ hi)) then none :: readBytes (b₁ :: r₁)
      else if n = 1 then some (Char.ofNat (b.toNat % 32 * 64 + tailBits b₁)) :: readBytes r₁
      else match r₁ with
      | [] => [none]
      | b₂ :: r₂ =>
        if !isTailByte b₂ then none :: readBytes (b₂ :: r₂)
        else if n = 2 then
          some (Char.ofNat ((b.toNat % 16 * 64 + tailBits b₁) * 64 + tailBits b₂)) :: readBytes r₂
        else match r₂ with
        | [] => [none]
        | b₃ :: r₃ =>
          if !isTailByte b₃ then none :: readBytes (b₃ :: r₃)
          else
            some (Char.ofNat (((b.toNat % 8 * 64 + tailBits b₁) * 64 + tailBits b₂) * 64
              + tailBits b₃)) :: readBytes r₃

/-- The text of a byte sequence, if no stretch of it is faulty. -/
def ofUtf8? (bytes : List UInt8) : Option String :=
  ((readBytes bytes).mapM id).map String.ofList

/-- The text of a byte sequence, with a replacement character for each faulty stretch. -/
def ofUtf8 (bytes : List UInt8) : String :=
  String.ofList ((readBytes bytes).map fun c => c.getD '\uFFFD')

def toUtf8 (text : String) : List UInt8 := text.toUTF8.toList

end ApiTrial.Text
