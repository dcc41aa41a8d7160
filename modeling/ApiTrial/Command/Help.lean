/-!
Pages of help: what a command is for, how it is called, and what each of its arguments means.
-/
namespace ApiTrial

/-- A titled list of forms, each with its meaning. -/
structure HelpSection where
  title : String
  rows : List (String × String)
  deriving DecidableEq, Repr

structure HelpPage where
  about : String
  usage : String
  sections : List HelpSection
  deriving DecidableEq, Repr

/-- A text filled up with blanks to a width. -/
def padded (width : Nat) (text : String) : String :=
  text ++ String.ofList (List.replicate (width - text.length) ' ')

namespace HelpSection

def width (part : HelpSection) : Nat := part.rows.foldl (fun w row => max w row.1.length) 0

/-- The lines of a list; all meanings begin in one column. A list without rows has no lines. -/
def lines (part : HelpSection) : List String :=
  if part.rows.isEmpty then []
  else
    ["", s!"{part.title}:"] ++
      part.rows.map fun (form, meaning) => s!"  {padded part.width form}  {meaning}"

end HelpSection

def HelpPage.lines (page : HelpPage) : List String :=
  [page.about, "", s!"Usage: {page.usage}"] ++ page.sections.flatMap HelpSection.lines

end ApiTrial
