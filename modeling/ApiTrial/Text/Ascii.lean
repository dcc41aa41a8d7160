/-!
Texts compared and written without regard to the case of their ASCII letters.
-/
namespace ApiTrial.Text

/-- A text with its ASCII letters in lower case. -/
def lowerAscii (text : String) : String := String.ofList (text.toList.map Char.toLower)

/-- Two texts are equal up to the case of ASCII letters. -/
def sameIgnoringCase (a b : String) : Bool := lowerAscii a == lowerAscii b

theorem sameIgnoringCase_iff {a b : String} :
    sameIgnoringCase a b = true ↔ lowerAscii a = lowerAscii b := by
  simp [sameIgnoringCase]

end ApiTrial.Text
