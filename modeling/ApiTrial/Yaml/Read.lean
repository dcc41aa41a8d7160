import ApiTrial.Document.Source
import ApiTrial.Yaml.Node
import ApiTrial.Yaml.Plain

/-!
Values read out of a document tree. An alias is followed when it is read, and following counts;
collections nest at most 128 deep, along aliases too. A node with a tag of the document's own is
no value of any kind known here.
-/
namespace ApiTrial.Yaml

/-- A node to be read: its document's anchors, and how many levels may still lie below it. -/
structure Cursor where
  document : Document
  depth : Nat
  node : Node

/-- The levels that collections may nest. -/
def depthLimit : Nat := 128

/-- How often aliases may be followed for each node and end of a document. -/
def followLimit : Nat := 100

def Cursor.root (document : Document) : Cursor := ⟨document, depthLimit, document.root⟩

/-- The node of an alias, any other node itself. -/
def follow (document : Document) : Node → Decode Node
  | .alias slot => fun left =>
    match left, document.target? slot with
    | left + 1, some node => some (node, left)
    | _, _ => none
  | node => pure node

/-- The cursor at the node of an alias. -/
def Cursor.follow (c : Cursor) : Decode Cursor := do
  return { c with node := ← Yaml.follow c.document c.node }

/-- Tags of the document's own begin with an exclamation mark. -/
def isOwnTag (tag : Option String) : Bool := tag.any fun t => t.toList.head? == some '!'

/-- The tag of a kind of scalar. -/
def coreTag (kind : String) : String := "tag:yaml.org,2002:" ++ kind

/-- What a scalar means. -/
def scalarData? (text : String) (style : Style) (tag : Option String) : Option Data :=
  match tag with
  | some tag =>
    if isOwnTag (some tag) then none
    else if tag == coreTag "bool" then (bool? text).map .bool
    else if tag == coreTag "int" then (int? text.toList).map .int
    else if tag == coreTag "float" then (real? text.toList).map .real
    else if tag == coreTag "null" then if isNull text then some .null else none
    else some (.text text)
  | none => if style == .plain then plainData? text else some (.text text)

/-- A scalar without anything written in it. -/
def isEmptyPlain (text : String) (style : Style) : Bool := text.isEmpty && style == .plain

/-- A plain scalar, or a literal block with the tag of its kind. -/
def mayBe (kind : String) (style : Style) (tag : Option String) : Bool :=
  style == .plain || (style == .literal && tag == some (coreTag kind))

/-- A node says that there is nothing. -/
def saysNothing (text : String) (style : Style) (tag : Option String) : Decode Bool :=
  if style != .plain then pure false
  else match tag with
  | some tag =>
    if tag == coreTag "null" then (if isNull text then pure true else Decode.refuse)
    else pure false
  | none => pure (text.isEmpty || isNull text)

def textOf (document : Document) (node : Node) : Decode String := do
  match ← follow document node with
  | .scalar text _ _ => return text
  | _ => Decode.refuse

/-- A node as JSON, with the texts of its keys. -/
def toJson (document : Document) : (depth : Nat) → Node → Decode Json
  | depth, node => do
    match ← follow document node with
    | .absent => return .null
    | .scalar text style tag =>
      let data ← Decode.ofOption (scalarData? text style tag)
      Decode.ofOption data.toJson?
    | .seq tag items =>
      match depth with
      | 0 => Decode.refuse
      | depth + 1 =>
        if isOwnTag tag then Decode.refuse
        else return .arr (← items.mapM (toJson document depth))
    | .map tag entries =>
      match depth with
      | 0 => Decode.refuse
      | depth + 1 =>
        if isOwnTag tag then Decode.refuse
        else
          return Json.ofMembers (← entries.mapM fun (key, value) => do
            return (← textOf document key, ← toJson document depth value))
    | .alias _ => Decode.refuse

/-- A node as data, with keys of any kind. -/
def toData (document : Document) : (depth : Nat) → Node → Decode Data
  | depth, node => do
    match ← follow document node with
    | .absent => return .null
    | .scalar text style tag => Decode.ofOption (scalarData? text style tag)
    | .seq tag items =>
      match depth with
      | 0 => Decode.refuse
      | depth + 1 =>
        if isOwnTag tag then Decode.refuse
        else return .list (← items.mapM (toData document depth))
    | .map tag entries =>
      match depth with
      | 0 => Decode.refuse
      | depth + 1 =>
        if isOwnTag tag then Decode.refuse
        else
          return .map (← entries.mapM fun (key, value) => do
            return (← toData document depth key, ← toData document depth value))
    | .alias _ => Decode.refuse

namespace Cursor

/-- A cursor one level further down. -/
def child (c : Cursor) (depth : Nat) (node : Node) : Cursor := { c with depth, node }

def items (c : Cursor) : Decode (List Cursor) := do
  match (← c.follow).node, c.depth with
  | .seq _ items, depth + 1 => return items.map (c.child depth)
  | .absent, _ => return []
  | .scalar text style _, _ => if isEmptyPlain text style then return [] else Decode.refuse
  | _, _ => Decode.refuse

def entries (c : Cursor) : Decode (List (String × Cursor)) := do
  match (← c.follow).node, c.depth with
  | .map _ entries, depth + 1 =>
    entries.mapM fun (key, value) => do
      return (← textOf c.document key, c.child depth value)
  | .absent, _ => return []
  | .scalar text style _, _ => if isEmptyPlain text style then return [] else Decode.refuse
  | _, _ => Decode.refuse

/-- The cursor, unless its node has a tag of the document's own. -/
def untagged (c : Cursor) : Decode Cursor := do
  let c ← c.follow
  let own := match c.node with
    | .scalar _ _ tag | .seq tag _ | .map tag _ => isOwnTag tag
    | .absent | .alias _ => false
  if own then Decode.refuse else return c

/-- The word of a choice: a text, or a tag in front of nothing. -/
def choice (c : Cursor) : Decode String := do
  match (← c.follow).node with
  | .scalar text style tag =>
    match tag with
    | some tag =>
      if isOwnTag (some tag) then
        if style == .plain && (text.isEmpty || isNull text) then
          return String.ofList (tag.toList.drop 1)
        else Decode.refuse
      else return text
    | none => return text
  | _ => Decode.refuse

end Cursor

instance : Source Cursor where
  text c := textOf c.document c.node
  bool c := do
    match (← c.follow).node with
    | .scalar text style tag =>
      if mayBe "bool" style tag then Decode.ofOption (bool? text) else Decode.refuse
    | _ => Decode.refuse
  nat limit c := do
    match (← c.follow).node with
    | .scalar text style tag =>
      if mayBe "int" style tag then
        Decode.ofOption ((nat? UInt64.size text.toList).filter (· < limit))
      else Decode.refuse
    | _ => Decode.refuse
  choice words c := do Decode.oneOf words (← c.choice)
  option c := do
    let c ← c.follow
    match c.node with
    | .absent => return none
    | .scalar text style tag =>
      if ← saysNothing text style tag then return none else return some c
    | _ => return some c
  list c := c.items
  entries c := c.entries
  record names c := do Record.ofEntries names (← c.entries)
  untagged c := c.untagged
  json c := toJson c.document c.depth c.node
  data c := toData c.document c.depth c.node

/-- The value read from the only document of a text. -/
def read? {α : Type} (read : Cursor → Decode α) (text : String) : Option α := do
  let document ← Document.parse? text
  return (← read (Cursor.root document) (document.size * followLimit)).1

end ApiTrial.Yaml
