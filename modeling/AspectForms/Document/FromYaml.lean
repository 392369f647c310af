import AspectForms.Document.Source
import AspectForms.Yaml.Content
import AspectForms.Yaml.Typed

/-!
Reading from a YAML document.  A scalar without quotes is a text where a text is wanted, and has a type of
its own where nothing is known about it.
-/

namespace AspectForms.Yaml

open AspectForms.Document

/-- A node of a document. -/
structure Place where
  content : Content
  /-- No node at all if the document is missing. -/
  node? : Option Node
  /-- How many collections it lies in, aliases followed. -/
  level : Nat

/-- How many collections may lie in each other. -/
def levelLimit : Nat := 128

/-- How many aliases may be followed for each part of a document. -/
def aliasFactor : Nat := 100

namespace Place

/-- The node itself, or the one that its alias stands for. -/
def target? (p : Place) : Option Node :=
  match p.node? with
  | some (.alias anchor) => p.content.target? anchor
  | node? => node?

/-- Whether nothing is written here. -/
def isBlank (p : Place) : Bool :=
  match p.target? with
  | none => true
  | some (.scalar _ .plain text) => text.isEmpty
  | _ => false

/-- The nodes of a collection, one level further down. -/
def below (p : Place) (nodes : List Node) : List Place :=
  nodes.map fun n => ⟨p.content, some n, p.level + 1⟩

/-- Refuse to enter a collection beyond the nesting limit. -/
def enter (p : Place) : Result Unit :=
  if p.level < levelLimit then .ok () else .error .malformed

/-- What a mismatch says about this node. -/
def found (p : Place) : Found :=
  match p.target? with
  | none => .null
  | some (.scalar _ _ text) => .string text
  | some (.sequence ..) => .sequence
  | some (.mapping ..) => .map
  | some (.alias _) => .null

/-- Stop because the node is not what was expected. -/
def refuse {α : Type} (expected : String) (p : Place) : Result α :=
  Document.refuse (.invalidType p.found expected)

/-- The items of a list; nothing written counts as none. -/
def items (p : Place) : Result (List Place) :=
  match p.target? with
  | some (.sequence _ items) => do
    p.enter
    return p.below items
  | _ => if p.isBlank then .ok [] else p.refuse "a sequence"

def keyText (p : Place) : Result String :=
  match p.target? with
  | some (.scalar _ _ text) => .ok text
  | _ => p.refuse "a string"

/-- The entries of a map; nothing written counts as none. -/
def entries (p : Place) : Result (List (Place × Place)) :=
  match p.target? with
  | some (.mapping _ entries) => do
    p.enter
    return (p.below (entries.map (·.1))).zip (p.below (entries.map (·.2)))
  | _ => if p.isBlank then .ok [] else p.refuse "a map"

/-- The fault of an array longer than the record it should be. -/
def surplus (taken total : Nat) : Option Fault :=
  some (.mismatch (.invalidLength total ("sequence of " ++ toString taken)))

end Place

def standardTag (name : String) : String := "tag:yaml.org,2002:" ++ name

/-- Whether a tag names a type that is not a standard one. -/
def isForeign (tag : Option String) : Bool :=
  tag.any fun t => t.toList.head? = some '!'

/-- A whole number, which must fit 64 bits. -/
def intBuffer (i : Int) : Result Buffer :=
  if -(Nat.pow 2 63 : Int) ≤ i ∧ i < Nat.pow 2 64 then .ok (.int i) else .error .malformed

/-- A scalar with its type: that of its tag, or without quotes that of its text. -/
def scalarBuffer (tag : Option String) (style : Style) (text : String) : Result Buffer :=
  let forced {α : Type} (a : Option α) (type : String) (build : α → Result Buffer) :=
    match a with
    | some a => build a
    | none => Document.refuse (.invalidValue (.string text) type)
  if isForeign tag then .error .malformed
  else if tag = some (standardTag "bool") then
    forced (bool? text) "a boolean" fun b => .ok (.bool b)
  else if tag = some (standardTag "int") then forced (int? text.toList) "an integer" intBuffer
  else if tag = some (standardTag "float") then
    forced (float? text.toList) "a float" fun f => .ok (.float f)
  else if tag = some (standardTag "null") then
    forced (if isNull text then some () else none) "null" fun _ => .ok .null
  else if tag.isSome || style ≠ .plain then .ok (.string text)
  else
    match Typed.ofPlain text with
    | .null => .ok .null
    | .bool b => .ok (.bool b)
    | .int i => intBuffer i
    | .float f => .ok (.float f)
    | .text => .ok (.string text)

/-- Reading a node whole; the state holds how many aliases may still be followed. -/
abbrev Following := StateT Nat Result

def follow (content : Content) : Node → Following Node
  | .alias anchor => do
    match ← get, content.target? anchor with
    | left + 1, some n =>
      set left
      return n
    | _, _ => throw .malformed
  | n => return n

/-- A node in memory, inside which collections may nest `fuel` deep. -/
def bufferNode (content : Content) : Nat → Node → Following Buffer
  | fuel, n => do
    match fuel, ← follow content n with
    | _, .scalar tag style text => (scalarBuffer tag style text : Result Buffer)
    | fuel + 1, .sequence tag items =>
      if isForeign tag then throw .malformed
      return .array (← items.mapM (bufferNode content fuel))
    | fuel + 1, .mapping tag entries =>
      if isForeign tag then throw .malformed
      return .object (← entries.mapM fun e => do
        let key ← bufferNode content fuel e.1
        return (key, ← bufferNode content fuel e.2))
    | _, _ => throw .malformed

/-- The text of a key of a free value. -/
def keyNode (content : Content) (n : Node) : Following String := do
  match ← follow content n with
  | .scalar _ _ text => return text
  | _ => throw .malformed

/-- A free value, inside which collections may nest `fuel` deep.  Keys are texts, whatever they look
like. -/
def valueNode (content : Content) : Nat → Node → Following Value
  | fuel, n => do
    match fuel, ← follow content n with
    | _, .scalar tag style text => do
      let b ← (scalarBuffer tag style text : Result Buffer)
      (b.value : Result Value)
    | fuel + 1, .sequence tag items =>
      if isForeign tag then throw .malformed
      return .array (← items.mapM (valueNode content fuel))
    | fuel + 1, .mapping tag entries =>
      if isForeign tag then throw .malformed
      return .ofEntries (← entries.mapM fun e => do
        let key ← keyNode content e.1
        return (key, ← valueNode content fuel e.2))
    | _, _ => throw .malformed

namespace Place

/-- Read the node whole; `blank` stands for a missing document. -/
def whole {α : Type} (read : Content → Nat → Node → Following α) (blank : α) (p : Place) :
    Result α :=
  match p.node? with
  | none => .ok blank
  | some n =>
    let parts := (p.content.root?.map Node.size).getD 1
    (read p.content (levelLimit - p.level) n).run' (aliasFactor * parts)

end Place

instance : Source Place where
  text expected p :=
    match p.target? with
    | some (.scalar _ _ text) => .ok text
    | _ => p.refuse expected
  flag p :=
    match p.target? with
    | some (.scalar tag style text) =>
      if style = .plain || (style = .literal && tag = some (standardTag "bool")) then
        match bool? text with
        | some b => .ok b
        | none => p.refuse "a boolean"
      else p.refuse "a boolean"
    | _ => p.refuse "a boolean"
  option p :=
    let q := { p with node? := p.target? }
    match q.node? with
    | none => .ok none
    | some (.scalar tag .plain text) =>
      if tag = some (standardTag "null") then
        if isNull text then .ok none
        else Document.refuse (.invalidValue (.string text) "null")
      else if tag.isNone && (text.isEmpty || isNull text) then .ok none
      else .ok (some q)
    | some _ => .ok (some q)
  items p := return ⟨← p.items, none⟩
  entries p := return ⟨(← p.entries).map fun e => (e.1.keyText, e.2), none⟩
  members _ _ p :=
    match p.target? with
    | some (.sequence ..) => return .listed ⟨← p.items, none⟩ Place.surplus
    | _ => return .keyed ⟨(← p.entries).map fun e => (.name <$> e.1.keyText, e.2), none⟩
  tagged p :=
    match p.target? with
    | some (.sequence tag _) => do
      if isForeign tag then .error .malformed else return .listed ⟨← p.items, none⟩
    | some (.mapping tag _) => do
      if isForeign tag then .error .malformed
      else
        return .keyed ⟨(← p.entries).map fun e => (e.1.whole bufferNode .null, e.2), none⟩
    | _ => return .scalar p.found
  choice p := .name <$> p.keyText
  value := Place.whole valueNode .null
  buffer := Place.whole bufferNode .null
  skip _ := .ok ()

/-- Read a text that holds at most one document. -/
def read {α : Type} (reader : Place → Result α) (text : String) : Result α :=
  match Content.ofText? text with
  | some content => reader ⟨content, content.root?, 0⟩
  | none => .error .malformed

end AspectForms.Yaml
