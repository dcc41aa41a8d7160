import ApiTrial.Toml.Scalar
import ApiTrial.Toml.Tree

/-!
Reading configuration texts: lines that assign values to keys, and headers that name the table which
the lines below them are about.
-/
namespace ApiTrial.Toml

/-- The text behind a comment, if one starts here. A comment may hold no control characters. -/
def skipComment (text : List Char) : List Char :=
  match text with
  | '#' :: rest => rest.dropWhile isShown
  | text => text

/-- The text behind blanks, line ends and comments, of which there are at most so many. -/
def skipLines : (most : Nat) → List Char → List Char
  | 0, text => text
  | most + 1, text =>
    let rest := skipComment (skipSpaces text)
    match lineEnd? rest with
    | some rest => skipLines most rest
    | none => rest

mutual

/-- A value at the head of a text, with at most `depth` levels of nesting; each step of the fuel
reads at least one character. -/
def readValue (depth : Nat) : (fuel : Nat) → List Char → Option (Data × List Char)
  | 0, _ => none
  | fuel + 1, text =>
    match text with
    | '[' :: rest =>
      match depth with
      | 0 => none
      | depth + 1 => do
        let (items, rest) ← readItems depth fuel rest
        return (.list items, rest)
    | '\x7b' :: rest =>
      match depth with
      | 0 => none
      | depth + 1 =>
        match skipSpaces rest with
        | '\x7d' :: rest => some (.map [], rest)
        | rest => do
          let (entries, rest) ← readPairs depth fuel [] rest
          return (.map (dataOfEntries entries), rest)
    | text => readScalar text

/-- The items of a list up to its end, with line ends and comments between them. -/
def readItems (depth : Nat) : (fuel : Nat) → List Char → Option (List Data × List Char)
  | 0, _ => none
  | fuel + 1, text => do
    match skipLines text.length text with
    | ']' :: rest => return ([], rest)
    | text =>
      let (item, rest) ← readValue depth fuel text
      match skipLines rest.length rest with
      | ',' :: rest =>
        let (items, rest) ← readItems depth fuel rest
        return (item :: items, rest)
      | ']' :: rest => return ([item], rest)
      | _ => none

/-- The assignments of a table in braces up to its end, all on one line. -/
def readPairs (depth : Nat) :
    (fuel : Nat) → Entries → List Char → Option (Entries × List Char)
  | 0, _, _ => none
  | fuel + 1, entries, text => do
    let (key, rest) ← readKey nestingLimit text
    let rest ← readMark '=' rest
    let (value, rest) ← readValue depth fuel (skipSpaces rest)
    let entries ← entries.assign key value
    match skipSpaces rest with
    | ',' :: rest => readPairs depth fuel entries rest
    | '\x7d' :: rest => return (entries, rest)
    | _ => none

end

/-- A key and its value, with the text behind them. -/
def readAssignment (text : List Char) : Option ((List String × Data) × List Char) := do
  let (key, rest) ← readKey nestingLimit text
  let rest ← readMark '=' rest
  let (value, rest) ← readValue nestingLimit (rest.length + 1) (skipSpaces rest)
  return ((key, value), rest)

/-- What has been read: the header that the next lines are about, and all entries. -/
structure Draft where
  header : List String := []
  entries : Entries := []

/-- A line that says something, with the text behind it. -/
def readStatement (draft : Draft) (text : List Char) : Option (Draft × List Char) :=
  match text with
  | '[' :: '[' :: rest => do
    let (key, rest) ← readKey nestingLimit rest
    let rest ← readMark ']' (← readMark ']' rest)
    return (⟨key, ← draft.entries.openListed key⟩, rest)
  | '[' :: rest => do
    let (key, rest) ← readKey nestingLimit rest
    let rest ← readMark ']' rest
    return (⟨key, ← draft.entries.openTable key⟩, rest)
  | text => do
    let ((key, value), rest) ← readAssignment text
    return ({ draft with entries := ← draft.entries.assignIn draft.header key value }, rest)

/-- Statements, each on lines of its own, of which there are at most so many. -/
def readStatements : (most : Nat) → Draft → List Char → Option Entries
  | 0, _, _ => none
  | most + 1, draft, text =>
    match skipLines text.length text with
    | [] => some draft.entries
    | text => do
      let (draft, rest) ← readStatement draft text
      match skipComment (skipSpaces rest) with
      | [] => return draft.entries
      | rest => readStatements most draft (← lineEnd? rest)

/-- A text without a byte order mark at its head. -/
def withoutMark (text : List Char) : List Char :=
  match text with
  | '\uFEFF' :: rest => rest
  | text => text

def read? (text : String) : Option Data := do
  let text := withoutMark text.toList
  let entries ← readStatements (text.length + 1) {} text
  return .map (dataOfEntries entries)

end ApiTrial.Toml
