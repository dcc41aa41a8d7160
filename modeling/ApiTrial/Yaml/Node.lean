import ApiTrial.Table
import ApiTrial.Yaml.Token

/-!
Documents as trees. An anchor takes the slot numbered by how many names are in use when it stands,
and an alias refers to the slot that its name took last; a slot that is taken again belongs to the
anchor that stands later.
-/
namespace ApiTrial.Yaml

/-- A node of a document. A document without any content is `absent`. -/
inductive Node where
  | absent
  | scalar (text : String) (style : Style) (tag : Option String)
  | seq (tag : Option String) (items : List Node)
  | map (tag : Option String) (entries : List (Node × Node))
  | alias (slot : Nat)
  deriving Inhabited

/-- A node with an anchor: its slot, and how many nodes and ends stand before it. -/
structure Anchor where
  slot : Nat
  start : Nat
  node : Node

/-- A document: its tree, its anchors, and the number of nodes and ends in it. -/
structure Document where
  root : Node
  anchors : List Anchor
  size : Nat

def Document.target? (document : Document) (slot : Nat) : Option Node :=
  let candidates := document.anchors.filter fun anchor => anchor.slot == slot
  (candidates.foldl
    (fun best anchor =>
      match best with
      | some (b : Anchor) => if b.start < anchor.start then some anchor else best
      | none => some anchor) none).map Anchor.node

/-- A tree in progress: the tokens left, the tag handles, the names in use and the anchors. -/
structure Building where
  tokens : List Token
  handles : List (String × String)
  names : Table Nat := []
  anchors : List Anchor := []
  size : Nat := 0

/-- A part of a tree, if the tokens have its form. -/
abbrev Build := StateT Building Option

namespace Build

/-- The tokens have not the wanted form. -/
def refuse {α : Type} : Build α := fun _ => none

def peek? : Build (Option Token) := do return (← get).tokens.head?

def advance : Build Unit := modify fun b => { b with tokens := b.tokens.tail }

/-- A node or an end of one. -/
def count : Build Unit := modify fun b => { b with size := b.size + 1 }

/-- A node that is not written. -/
def empty : Build Node := do
  count
  return .scalar "" .plain none

/-- The slot of an anchor that stands here. -/
def takeSlot (name : String) : Build (Nat × Nat) := do
  let b ← get
  let slot := b.names.length
  set { b with names := b.names.insert name slot }
  return (slot, b.size)

/-- The tag that a handle and a suffix stand for. -/
def meaning (handle suffix : String) : Build String := do
  if handle.isEmpty then return suffix
  match (← get).handles.find? fun h => h.1 == handle with
  | some (_, meaning) => return meaning ++ suffix
  | none => refuse

/-- The anchor and the tag in front of a node, in either order. -/
def properties : Build (Option String × Option String) := do
  match (← get).tokens with
  | .anchor name :: .tag handle suffix :: _ =>
    advance
    advance
    return (some name, some (← meaning handle suffix))
  | .tag handle suffix :: .anchor name :: _ =>
    advance
    advance
    return (some name, some (← meaning handle suffix))
  | .anchor name :: _ =>
    advance
    return (some name, none)
  | .tag handle suffix :: _ =>
    advance
    return (none, some (← meaning handle suffix))
  | _ => return (none, none)

def aliasNode (name : String) : Build Node := do
  match (← get).names.get? name with
  | some slot =>
    count
    return .alias slot
  | none => refuse

/-- One of the given tokens is next. -/
def sees (tokens : List Token) : Build Bool := do
  return (← peek?).any tokens.contains

/-- The tag of a scalar: an exclamation mark alone says nothing. -/
def scalarTag (tag : Option String) : Option String := if tag == some "!" then none else tag

mutual

/-- A node; `indentless` allows the items of a sequence that is indented no further. -/
def node (block indentless : Bool) : (fuel : Nat) → Build Node
  | 0 => refuse
  | fuel + 1 => do
    match ← peek? with
    | some (.alias name) =>
      advance
      aliasNode name
    | _ =>
      let (anchor, tag) ← properties
      let slot ← match anchor with
        | some name => some <$> takeSlot name
        | none => pure none
      count
      let node ← content block indentless (anchor.isSome || tag.isSome) tag fuel
      match slot with
      | some (slot, start) =>
        modify fun b => { b with anchors := ⟨slot, start, node⟩ :: b.anchors }
      | none => pure ()
      return node

/-- What stands behind the properties of a node. -/
def content (block indentless marked : Bool) (tag : Option String) : (fuel : Nat) → Build Node
  | 0 => refuse
  | fuel + 1 => do
    match ← peek? with
    | some (.scalar text style) =>
      advance
      return .scalar text style (scalarTag tag)
    | some .flowSequence =>
      advance
      return .seq tag (← flowItems true fuel)
    | some .flowMapping =>
      advance
      return .map tag (← flowEntries true fuel)
    | some .blockEntry =>
      if indentless then return .seq tag (← indentlessItems fuel)
      else if marked then return .scalar "" .plain tag
      else refuse
    | some .blockSequence =>
      if block then
        advance
        return .seq tag (← blockItems fuel)
      else if marked then return .scalar "" .plain tag
      else refuse
    | some .blockMapping =>
      if block then
        advance
        return .map tag (← blockEntries fuel)
      else if marked then return .scalar "" .plain tag
      else refuse
    | _ => if marked then return .scalar "" .plain tag else refuse

def blockItems : (fuel : Nat) → Build (List Node)
  | 0 => refuse
  | fuel + 1 => do
    match ← peek? with
    | some .blockEntry =>
      advance
      let item ← if ← sees [.blockEntry, .blockEnd] then empty else node true false fuel
      return item :: (← blockItems fuel)
    | some .blockEnd =>
      advance
      count
      return []
    | _ => refuse

/-- The items of a sequence that is indented no further than its key. -/
def indentlessItems : (fuel : Nat) → Build (List Node)
  | 0 => refuse
  | fuel + 1 => do
    match ← peek? with
    | some .blockEntry =>
      advance
      let item ← if ← sees [.blockEntry, .key, .value, .blockEnd] then empty
        else node true false fuel
      return item :: (← indentlessItems fuel)
    | _ =>
      count
      return []

def blockEntries : (fuel : Nat) → Build (List (Node × Node))
  | 0 => refuse
  | fuel + 1 => do
    match ← peek? with
    | some .key =>
      advance
      let key ← if ← sees [.key, .value, .blockEnd] then empty else node true true fuel
      let value ← if ← sees [.value] then do
          advance
          if ← sees [.key, .value, .blockEnd] then empty else node true true fuel
        else empty
      return (key, value) :: (← blockEntries fuel)
    | some .blockEnd =>
      advance
      count
      return []
    | _ => refuse

def flowItems (first : Bool) : (fuel : Nat) → Build (List Node)
  | 0 => refuse
  | fuel + 1 => do
    if ← sees [.flowSequenceEnd] then
      advance
      count
      return []
    if !first then
      if ← sees [.flowEntry] then advance else refuse
    match ← peek? with
    | some .flowSequenceEnd =>
      advance
      count
      return []
    | some .key =>
      advance
      let item ← flowPair fuel
      return item :: (← flowItems false fuel)
    | _ =>
      let item ← node false false fuel
      return item :: (← flowItems false fuel)

/-- An item of a flow sequence that is a mapping with one entry. -/
def flowPair : (fuel : Nat) → Build Node
  | 0 => refuse
  | fuel + 1 => do
    count
    let key ← if ← sees [.value, .flowEntry, .flowSequenceEnd] then do
        advance
        empty
      else node false false fuel
    let value ← if ← sees [.value] then do
        advance
        if ← sees [.flowEntry, .flowSequenceEnd] then empty else node false false fuel
      else empty
    count
    return .map none [(key, value)]

def flowEntries (first : Bool) : (fuel : Nat) → Build (List (Node × Node))
  | 0 => refuse
  | fuel + 1 => do
    if ← sees [.flowMappingEnd] then
      advance
      count
      return []
    if !first then
      if ← sees [.flowEntry] then advance else refuse
    match ← peek? with
    | some .flowMappingEnd =>
      advance
      count
      return []
    | some .key =>
      advance
      let key ← if ← sees [.value, .flowEntry, .flowMappingEnd] then empty
        else node false false fuel
      let value ← if ← sees [.value] then do
          advance
          if ← sees [.flowEntry, .flowMappingEnd] then empty else node false false fuel
        else empty
      return (key, value) :: (← flowEntries false fuel)
    | _ =>
      let key ← node false false fuel
      let value ← empty
      return (key, value) :: (← flowEntries false fuel)

end

/-- The directives in front of a document: one version at most, and each handle once. -/
def directives (version : Bool) : List Token → Building → Option (Bool × Building)
  | .version major minor :: rest, b =>
    if version || major ≠ 1 || (minor ≠ 1 && minor ≠ 2) then none
    else directives true rest { b with tokens := rest }
  | .tagShorthand handle meaning :: rest, b =>
    if b.handles.any fun h => h.1 == handle then none
    else
      directives version rest
        { b with tokens := rest, handles := (handle, meaning) :: b.handles }
  | _, b => some (version, b)

/-- The handles that every document has. -/
def defaultHandles : List (String × String) := [("!", "!"), ("!!", "tag:yaml.org,2002:")]

/-- The root of a document behind its directives. -/
def root (fuel : Nat) (directed : Bool) : Build Node := do
  match ← peek? with
  | some .documentStart =>
    advance
    match ← peek? with
    | none => empty
    | _ =>
      if ← sees [.documentStart, .documentEnd] then empty
      else
        match ← peek? with
        | some (.version ..) => empty
        | some (.tagShorthand ..) => empty
        | _ => node true false fuel
  | _ => if directed then refuse else node true false fuel

end Build

/-- The only document of a list of tokens. -/
def Document.ofTokens? (tokens : List Token) : Option Document := do
  if tokens.isEmpty then return { root := .absent, anchors := [], size := 1 }
  let (versioned, b) ← Build.directives false tokens { tokens, handles := [] }
  let directed := versioned || !b.handles.isEmpty
  let b := { b with handles := b.handles ++ Build.defaultHandles }
  let (root, b) ← Build.root (3 * tokens.length + 3) directed b
  if b.tokens.all (· == .documentEnd) then
    return { root, anchors := b.anchors, size := b.size }
  else none

def Document.parse? (text : String) : Option Document := (tokens? text).bind Document.ofTokens?

end ApiTrial.Yaml
