import AspectForms.Yaml.Lexer
import AspectForms.Yaml.Node

/-!
A document as a whole: its nodes, and the tokens that spell it.
-/

namespace AspectForms.Yaml

structure Content where
  /-- The root, unless there is no document at all. -/
  root? : Option Node
  anchored : List Anchored

/-- Of two nodes with the same anchor, the one that starts later. -/
def Anchored.later? (anchor : Nat) (best : Option Anchored) (a : Anchored) : Option Anchored :=
  if a.anchor = anchor && best.all (·.start < a.start) then some a else best

/-- The node that an alias stands for: the last one with its anchor. -/
def Content.target? (c : Content) (anchor : Nat) : Option Node :=
  (c.anchored.foldl (Anchored.later? anchor) none).map (·.node)

/-- The tokens that are left, and what has been declared so far. -/
structure Assembly where
  tokens : List Token
  /-- What the handles of tags stand for. -/
  handles : List (String × String)
  /-- The anchors by name, each with its number. -/
  anchors : List (String × Nat) := []
  /-- How many anchored nodes have started. -/
  started : Nat := 0
  anchored : List Anchored := []

/-- A step of assembling: it may fail. -/
abbrev Assembling := StateT Assembly Option

namespace Assembling

def current : Assembling (Option Token) := return (← get).tokens.head?

def skip : Assembling Unit := modify fun s => { s with tokens := s.tokens.tail }

/-- Whether the next token is one of these. -/
def at? (tokens : List (Option Token)) : Assembling Bool := return tokens.contains (← current)

/-- Pass a token that must come next. -/
def expect (t : Token) : Assembling Unit := do
  if (← current) = some t then skip else failure

/-- Pass the anchor of a node. -/
def anchor? : Assembling (Option String) := do
  match ← current with
  | some (.anchor name) =>
    skip
    return some name
  | _ => return none

def fullTag (handle suffix : String) : Assembling String := do
  if handle.isEmpty then return suffix
  match (← get).handles.find? (·.1 = handle) with
  | some h => return h.2 ++ suffix
  | none => failure

/-- Pass the tag of a node. -/
def tag? : Assembling (Option String) := do
  match ← current with
  | some (.tag handle suffix) =>
    skip
    return some (← fullTag handle suffix)
  | _ => return none

/-- Pass the anchor and the tag of a node, in either order. -/
def properties : Assembling (Option String × Option String) := do
  match ← anchor? with
  | some name => return (some name, ← tag?)
  | none =>
    let tag ← tag?
    return (← anchor?, tag)

/-- Declare the anchor of a node that starts here.  Its number counts the names so far. -/
def declare (name : String) : Assembling (Nat × Nat) := do
  let s ← get
  let number := s.anchors.length
  let others := s.anchors.filter (·.1 ≠ name)
  set { s with anchors := (name, number) :: others, started := s.started + 1 }
  return (number, s.started)

/-- The number of the anchor that an alias names. -/
def lookUp (name : String) : Assembling Node := do
  match (← get).anchors.find? (·.1 = name) with
  | some a => return .alias a.2
  | none => failure

/-- The tag of a scalar: a lone exclamation mark says nothing about it. -/
def scalarTag (tag : Option String) : Option String :=
  if tag = some "!" then none else tag

mutual

/-- A node.  A `block` collection may stand here; the entries of an `indentless` one too. -/
def node (block indentless : Bool) : Nat → Assembling Node
  | 0 => failure
  | fuel + 1 => do
    if let some (.alias name) ← current then
      skip
      return ← lookUp name
    let (name, tag) ← properties
    let place ← name.mapM declare
    let n ← contents block indentless (name.isSome || tag.isSome) tag fuel
    if let some (anchor, start) := place then
      modify fun s => { s with anchored := ⟨anchor, start, n⟩ :: s.anchored }
    return n

/-- The node behind an anchor and a tag; a `marked` one, that has any of them, may be empty. -/
def contents (block indentless marked : Bool) (tag : Option String) : Nat → Assembling Node
  | 0 => failure
  | fuel + 1 => do
    match ← current with
    | some (.scalar style text) =>
      skip
      return .scalar (scalarTag tag) style text
    | some .flowSequenceStart =>
      skip
      return .sequence tag (← flowItems true fuel)
    | some .flowMappingStart =>
      skip
      return .mapping tag (← flowEntries true fuel)
    | some .blockEntry =>
      if indentless then return .sequence tag (← indentlessItems fuel)
      else if marked then return .scalar tag .plain "" else failure
    | some .blockSequenceStart =>
      if block then
        skip
        return .sequence tag (← blockItems fuel)
      else if marked then return .scalar tag .plain "" else failure
    | some .blockMappingStart =>
      if block then
        skip
        return .mapping tag (← blockEntries fuel)
      else if marked then return .scalar tag .plain "" else failure
    | _ => if marked then return .scalar tag .plain "" else failure

/-- A node that is empty if one of these tokens comes instead. -/
def nodeUnless (tokens : List (Option Token)) (block indentless : Bool) : Nat → Assembling Node
  | 0 => failure
  | fuel + 1 => do
    if ← at? tokens then return .empty else node block indentless fuel

/-- The items of a block sequence, up to and with its end. -/
def blockItems : Nat → Assembling (List Node)
  | 0 => failure
  | fuel + 1 => do
    match ← current with
    | some .blockEntry =>
      skip
      let n ← nodeUnless [some .blockEntry, some .blockEnd] true false fuel
      return n :: (← blockItems fuel)
    | _ =>
      expect .blockEnd
      return []

/-- The items of a block sequence that no indentation bounds. -/
def indentlessItems : Nat → Assembling (List Node)
  | 0 => failure
  | fuel + 1 => do
    match ← current with
    | some .blockEntry =>
      skip
      let n ← nodeUnless [some .blockEntry, some .key, some .value, some .blockEnd] true false fuel
      return n :: (← indentlessItems fuel)
    | _ => return []

/-- The entries of a block mapping, up to and with its end. -/
def blockEntries : Nat → Assembling (List (Node × Node))
  | 0 => failure
  | fuel + 1 => do
    match ← current with
    | some .key =>
      skip
      let stops := [some .key, some .value, some .blockEnd]
      let key ← nodeUnless stops true true fuel
      let value ← (do
        if ← at? [some .value] then
          skip
          nodeUnless stops true true fuel
        else return .empty)
      return (key, value) :: (← blockEntries fuel)
    | _ =>
      expect .blockEnd
      return []

/-- The items of a flow sequence, up to and with its bracket. -/
def flowItems (first : Bool) : Nat → Assembling (List Node)
  | 0 => failure
  | fuel + 1 => do
    if !first && !(← at? [some .flowSequenceEnd]) then expect .flowEntry
    match ← current with
    | some .flowSequenceEnd =>
      skip
      return []
    | some .key =>
      skip
      let pair ← flowPair fuel
      return .mapping none [pair] :: (← flowItems false fuel)
    | _ =>
      let n ← node false false fuel
      return n :: (← flowItems false fuel)

/-- A pair that stands as an item, its key mark passed.  The mark in place of a missing key is passed
too. -/
def flowPair : Nat → Assembling (Node × Node)
  | 0 => failure
  | fuel + 1 => do
    let stops := [some .flowEntry, some .flowSequenceEnd]
    let key ← (do
      if ← at? (some .value :: stops) then
        skip
        return .empty
      else node false false fuel)
    if ← at? [some .value] then
      skip
      return (key, ← nodeUnless stops false false fuel)
    else return (key, .empty)

/-- The entries of a flow mapping, up to and with its brace. -/
def flowEntries (first : Bool) : Nat → Assembling (List (Node × Node))
  | 0 => failure
  | fuel + 1 => do
    if !first && !(← at? [some .flowMappingEnd]) then expect .flowEntry
    let stops := [some .flowEntry, some .flowMappingEnd]
    match ← current with
    | some .flowMappingEnd =>
      skip
      return []
    | some .key =>
      skip
      let key ← nodeUnless (some .value :: stops) false false fuel
      let value ← (do
        if ← at? [some .value] then
          skip
          nodeUnless stops false false fuel
        else return .empty)
      return (key, value) :: (← flowEntries false fuel)
    | _ =>
      let key ← node false false fuel
      return (key, .empty) :: (← flowEntries false fuel)

end

/-- The handles that every document has. -/
def standardHandles : List (String × String) := [("!", "!"), ("!!", "tag:yaml.org,2002:")]

/-- Pass directives; `versioned` if a version has been stated. -/
def directives (versioned : Bool) : List Token → Assembling Unit
  | .directive (.version major minor) :: rest => do
    if versioned || major ≠ 1 || (minor ≠ 1 && minor ≠ 2) then failure
    skip
    directives true rest
  | .directive (.tag handle start) :: rest => do
    let s ← get
    if s.handles.any (·.1 = handle) then failure
    set { s with handles := (handle, start) :: s.handles }
    skip
    directives versioned rest
  | _ => return ()

def root (fuel : Nat) : Assembling Node := do
  match ← current with
  | some (.directive _) | some .documentStart =>
    directives false (← get).tokens
    expect .documentStart
    modify fun s => { s with handles := s.handles ++ standardHandles }
    match ← current with
    | some (.directive _) | some .documentStart | some .documentEnd | none => return .empty
    | _ => node true false fuel
  | _ =>
    modify fun s => { s with handles := standardHandles }
    node true false fuel

end Assembling

/-- The document that tokens spell; there may be at most one. -/
def Content.ofTokens? (tokens : List Token) : Option Content :=
  if tokens.isEmpty then some ⟨none, []⟩
  else do
    let (root, s) ← (Assembling.root (3 * tokens.length + 3)).run ⟨tokens, [], [], 0, []⟩
    if (s.tokens.dropWhile (· = .documentEnd)).isEmpty then some ⟨some root, s.anchored⟩ else none

def Content.ofText? (text : String) : Option Content := do
  Content.ofTokens? (← Token.ofText? text)

end AspectForms.Yaml
