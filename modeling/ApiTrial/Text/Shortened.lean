/-!
Texts cut to a length for one line of a report.
-/
namespace ApiTrial.Text

/-- The first `limit` characters and three dots, or the whole text if it is no longer. -/
def shortened (limit : Nat) (text : String) : String :=
  let chars := text.toList
  if limit < chars.length then String.ofList (chars.take limit) ++ "..." else text

/-- A text within the limit is left alone. -/
theorem shortened_of_length_le {limit : Nat} {text : String} (h : text.toList.length ≤ limit) :
    shortened limit text = text := by
  simp [shortened, Nat.not_lt.mpr h]

end ApiTrial.Text
