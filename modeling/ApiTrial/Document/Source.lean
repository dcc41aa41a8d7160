import ApiTrial.Document.Data

/-!
Reading values of wanted shapes out of documents. A reader either refuses a document or yields a
value; it also counts the references that it may still follow, which only documents with references
inside them use up.
-/
namespace ApiTrial

/-- A reader's result, with the number of references it may still follow. -/
abbrev Decode := StateT Nat Option

def Decode.refuse {α : Type} : Decode α := fun _ => none

def Decode.ofOption {α : Type} : Option α → Decode α
  | some a => pure a
  | none => Decode.refuse

/-- A word, if it is one of the given ones. -/
def Decode.oneOf (words : List String) (word : String) : Decode String :=
  if words.contains word then pure word else Decode.refuse

/-- The fields of a record as a document gives them: by name, or by position in the order in which
they are declared. -/
structure Record (σ : Type) where
  positional : Bool
  fields : List (String × σ)

/-- Documents that values can be read from. -/
class Source (σ : Type) where
  /-- A text. -/
  text : σ → Decode String
  /-- A truth value. -/
  bool : σ → Decode Bool
  /-- A whole number from 0 up to, and without, a limit. -/
  nat : Nat → σ → Decode Nat
  /-- The word of a choice among words, which holds nothing else. -/
  choice : List String → σ → Decode String
  /-- A document that may say that there is nothing. -/
  option : σ → Decode (Option σ)
  /-- The items of a list. -/
  list : σ → Decode (List σ)
  /-- The entries under text keys. -/
  entries : σ → Decode (List (String × σ))
  /-- The fields of a record with the declared names; others are passed over. -/
  record : List String → σ → Decode (Record σ)
  /-- A document, unless it has a tag of its own. -/
  untagged : σ → Decode σ
  /-- The document as JSON. -/
  json : σ → Decode Json
  /-- The document as data. -/
  data : σ → Decode Data

namespace Record

variable {σ α : Type}

/-- The record of a list: its items stand for the first of the names. -/
def ofItems (names : List String) (items : List σ) : Decode (Record σ) :=
  if items.length ≤ names.length then pure ⟨true, names.zip items⟩ else Decode.refuse

/-- The record of entries: a declared name may occur once. -/
def ofEntries (names : List String) (entries : List (String × σ)) : Decode (Record σ) :=
  let fields := entries.filter fun entry => names.contains entry.1
  if (fields.map (·.1)).eraseDups.length = fields.length then pure ⟨false, fields⟩
  else Decode.refuse

def field? (record : Record σ) (name : String) : Option σ :=
  (record.fields.find? fun field => field.1 == name).map (·.2)

/-- A field that has to be there. -/
def required (record : Record σ) (name : String) (read : σ → Decode α) : Decode α :=
  match record.field? name with
  | some source => read source
  | none => Decode.refuse

/-- A field with a value of its own when it is missing. -/
def withDefault (record : Record σ) (name : String) (default : α) (read : σ → Decode α) :
    Decode α :=
  match record.field? name with
  | some source => read source
  | none => pure default

/-- A field that may be missing, or say that there is nothing; by position it cannot be missing. -/
def optional [Source σ] (record : Record σ) (name : String) (read : σ → Decode α) :
    Decode (Option α) :=
  match record.field? name with
  | some source => do
    match ← Source.option source with
    | some source => return some (← read source)
    | none => return none
  | none => if record.positional then Decode.refuse else pure none

end Record

namespace Source

variable {σ α : Type} [Source σ]

/-- The values of a list, each read the same way. -/
def listOf (read : σ → Decode α) (source : σ) : Decode (List α) := do
  (← Source.list source).mapM read

/-- The table of the entries of a document, each value read the same way. -/
def tableOf (read : σ → Decode α) (source : σ) : Decode (Table α) := do
  let entries ← (← Source.entries source).mapM fun entry => do return (entry.1, ← read entry.2)
  return Table.ofEntries entries

def optionOf (read : σ → Decode α) (source : σ) : Decode (Option α) := do
  match ← Source.option source with
  | some source => return some (← read source)
  | none => return none

end Source

instance : Source Json where
  text | .str text => pure text
       | _ => Decode.refuse
  bool | .bool b => pure b
       | _ => Decode.refuse
  nat limit
    | .int i => if 0 ≤ i ∧ i < limit then pure i.toNat else Decode.refuse
    | _ => Decode.refuse
  choice words
    | .str word => Decode.oneOf words word
    | .obj [(word, .null)] => Decode.oneOf words word
    | _ => Decode.refuse
  option | .null => pure none
         | value => pure (some value)
  list | .arr items => pure items
       | _ => Decode.refuse
  entries | .obj members => pure members
          | _ => Decode.refuse
  record names
    | .obj members => Record.ofEntries names members
    | .arr items => Record.ofItems names items
    | _ => Decode.refuse
  untagged := pure
  json := pure
  data value := pure (Data.ofJson value)

/-- The entries of a map whose keys are texts. -/
def Data.textEntries? (entries : List (Data × Data)) : Option (List (String × Data)) :=
  entries.mapM fun entry => entry.1.text?.map fun key => (key, entry.2)

/-- Data that a choice without content may hold. -/
def Data.isNothing : Data → Bool
  | .null => true
  | .map [] => true
  | _ => false

instance : Source Data where
  text data := Decode.ofOption data.text?
  bool | .bool b => pure b
       | _ => Decode.refuse
  nat limit
    | .int i => if 0 ≤ i ∧ i < limit then pure i.toNat else Decode.refuse
    | _ => Decode.refuse
  choice words
    | .text word => Decode.oneOf words word
    | .map [(key, content)] =>
      if content.isNothing then
        match key with
        | .text word => Decode.oneOf words word
        | .int i => if 0 ≤ i then Decode.ofOption words[i.toNat]? else Decode.refuse
        | _ => Decode.refuse
      else Decode.refuse
    | _ => Decode.refuse
  option | .null => pure none
         | data => pure (some data)
  list | .list items => pure items
       | _ => Decode.refuse
  entries | .map entries => Decode.ofOption (Data.textEntries? entries)
          | _ => Decode.refuse
  record names
    | .map entries => do
      Record.ofEntries names (← Decode.ofOption (Data.textEntries? entries))
    | .list items => Record.ofItems names items
    | _ => Decode.refuse
  untagged := pure
  json data := Decode.ofOption data.toJson?
  data := pure

/-- The value read from a document in which there are no references. -/
def Decode.run? {σ α : Type} (read : σ → Decode α) (source : σ) : Option α :=
  (read source 0).map (·.1)

end ApiTrial
