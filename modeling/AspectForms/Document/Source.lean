import AspectForms.Document.Buffer

/-!
Reading records out of a document, whatever its notation.

A notation says how its nodes open up (`Source`).  On top of that, a record is read field by field in
text order, so the first fault met is the one reported; the fields may also stand in an array in their
declared order.
-/

namespace AspectForms.Document

/-- Nodes in text order, and the fault that follows them, if any. -/
structure Run (σ : Type) where
  items : List σ
  stop : Option Fault

/-- A key as a field is chosen by it: a name, or the number of a field. -/
inductive Key
  | name (s : String)
  | index (n : Nat)

/-- Entries in text order, and the fault that follows them, if any. -/
structure Entries (κ σ : Type) where
  entries : List (Result κ × σ)
  stop : Option Fault

/-- The members of a record as a document gives them. -/
inductive Members (σ : Type)
  | keyed (entries : Entries Key σ)
  /-- `surplus taken total` is the fault of an array longer than the record. -/
  | listed (run : Run σ) (surplus : Nat → Nat → Option Fault)

/-- A node that may say by itself what kind of thing it is. -/
inductive Tagged (σ : Type)
  | scalar (found : Found)
  | keyed (entries : Entries Buffer σ)
  | listed (run : Run σ)

/-- How the nodes of a notation are read. -/
class Source (σ : Type) where
  /-- A text; `expected` describes it. -/
  text (expected : String) : σ → Result String
  /-- A truth value. -/
  flag : σ → Result Bool
  /-- Nothing, or a node. -/
  option : σ → Result (Option σ)
  /-- The items of a list. -/
  items : σ → Result (Run σ)
  /-- The entries of a map whose keys are texts. -/
  entries : σ → Result (Entries String σ)
  /-- The members of the record `type`, which have these names. -/
  members (type : String) (names : List String) : σ → Result (Members σ)
  /-- The node opened without knowing what it should be. -/
  tagged : σ → Result (Tagged σ)
  /-- A word that chooses between alternatives. -/
  choice : σ → Result Key
  /-- A free value. -/
  value : σ → Result Value
  /-- The node in memory. -/
  buffer : σ → Result Buffer
  /-- Pass over the node. -/
  skip : σ → Result Unit

/-- When a member may be missing. -/
inductive Presence
  /-- It must be there. -/
  | required
  /-- It may be missing between braces, not in an array. -/
  | optional
  /-- It may be missing everywhere. -/
  | defaulted
deriving DecidableEq

/-- A member of a record that is being read into a `β`. -/
structure Member (σ β : Type) where
  name : String
  presence : Presence
  read : σ → β → Result β

section Record

variable {σ β : Type} [Source σ]

/-- The stated fault, if any. -/
def stopAt (stop : Option Fault) : Result Unit :=
  match stop with
  | some f => .error f
  | none => .ok ()

def pick (members : List (Member σ β)) : Key → Option (Member σ β)
  | .name s => members.find? (·.name == s)
  | .index n => members[n]?

/-- Read entries in text order.  A field may occur once; unknown keys are passed over. -/
def readKeyed (members : List (Member σ β)) :
    List String → β → List (Result Key × σ) → Result (List String × β)
  | seen, acc, [] => .ok (seen, acc)
  | seen, acc, (key, v) :: rest => do
    match pick members (← key) with
    | some m =>
      if m.name ∈ seen then refuse (.duplicateField m.name)
      let acc ← m.read v acc
      readKeyed members (m.name :: seen) acc rest
    | none =>
      Source.skip v
      readKeyed members seen acc rest

/-- Read an array of fields in declared order; the nodes left over and how many fields were read. -/
def readListed (expected : String) (stop : Option Fault) :
    Nat → List (Member σ β) → β → List σ → Result (Nat × β × List σ)
  | n, [], acc, rest => .ok (n, acc, rest)
  | n, m :: members, acc, v :: rest => do
    let acc ← m.read v acc
    readListed expected stop (n + 1) members acc rest
  | n, m :: members, acc, [] => do
    stopAt stop
    if m.presence = .defaulted then readListed expected stop (n + 1) members acc []
    else refuse (.invalidLength n expected)

/-- How many fields a record has, in words. -/
def recordLength (type : String) (n : Nat) : String :=
  type ++ " with " ++ toString n ++ (if n = 1 then " element" else " elements")

/-- Read a record.  `type` describes it, `start` holds the values of missing fields. -/
def readRecord (type : String) (members : List (Member σ β)) (start : β) (v : σ) : Result β := do
  match ← Source.members type (members.map (·.name)) v with
  | .keyed es =>
    let (seen, acc) ← readKeyed members [] start es.entries
    stopAt es.stop
    match members.find? fun m => m.presence = .required ∧ m.name ∉ seen with
    | some m => refuse (.missingField m.name)
    | none => return acc
  | .listed run surplus =>
    let (_, acc, rest) ←
      readListed (recordLength type members.length) run.stop 0 members start run.items
    let taken := run.items.length - rest.length
    if rest.isEmpty then
      stopAt run.stop
      return acc
    match surplus taken run.items.length with
    | some fault => .error fault
    | none => return acc

def readItems {α : Type} (read : σ → Result α) (v : σ) : Result (List α) := do
  let run ← Source.items v
  let items ← run.items.mapM read
  stopAt run.stop
  return items

/-- Read every entry of a map, in text order. -/
def readEntries {α : Type} (read : σ → Result α) (v : σ) : Result (List (String × α)) := do
  let es ← Source.entries v
  let items ← es.entries.mapM fun e => do
    let key ← e.1
    return (key, ← read e.2)
  stopAt es.stop
  return items

def readOption {α : Type} (read : σ → Result α) (v : σ) : Result (Option α) := do
  match ← Source.option v with
  | none => return none
  | some w => return some (← read w)

def readText (v : σ) : Result String := Source.text "a string" v

/-- The alternative that a key chooses, by one of its names or by its number. -/
def chooseAlternative {α : Type} (alternatives : List (List String × α)) (expected : List String) :
    Key → Result α
  | .name s =>
    match alternatives.find? fun a => s ∈ a.1 with
    | some a => .ok a.2
    | none => refuse (.unknownVariant s expected)
  | .index n =>
    match alternatives[n]? with
    | some a => .ok a.2
    | none =>
      refuse (.invalidValue (.int n) ("variant index 0 <= i < " ++ toString alternatives.length))

/-- Read entries one of which, under `tag`, chooses an alternative; the others are kept. -/
def readTaggedEntries {α : Type} (tag : String) (choose : Key → Result α) :
    Option α → List (Buffer × Buffer) → List (Result Buffer × σ) →
      Result (Option α × List (Buffer × Buffer))
  | chosen, kept, [] => .ok (chosen, kept.reverse)
  | chosen, kept, (key, v) :: rest => do
    match ← key with
    | .string s =>
      if s = tag then
        if chosen.isSome then refuse (.duplicateField tag)
        let a ← choose (← Source.choice v)
        readTaggedEntries tag choose (some a) kept rest
      else
        let b ← Source.buffer v
        readTaggedEntries tag choose chosen ((.string s, b) :: kept) rest
    | key =>
      let b ← Source.buffer v
      readTaggedEntries tag choose chosen ((key, b) :: kept) rest

/-- Read a node that says itself, under `tag`, which alternative it is; the rest of it is kept for that
alternative.  An array names its alternative first. -/
def readTagged {α : Type} (type tag : String) (choose : Key → Result α) (v : σ) :
    Result (α × Buffer) := do
  match ← Source.tagged v with
  | .scalar found => refuse (.invalidType found ("internally tagged enum " ++ type))
  | .keyed es =>
    let (chosen, kept) ← readTaggedEntries tag choose none [] es.entries
    stopAt es.stop
    match chosen with
    | some a => return (a, .object kept)
    | none => refuse (.missingField tag)
  | .listed run =>
    match run.items with
    | [] =>
      stopAt run.stop
      refuse (.missingField tag)
    | v :: rest =>
      let a ← choose (← Source.choice v)
      let kept ← rest.mapM Source.buffer
      stopAt run.stop
      return (a, .array kept)

/-- A member that may be missing; a present `null` counts as missing. -/
def optionalMember {α : Type} (name : String) (read : σ → Result α)
    (store : Option α → β → β) : Member σ β :=
  ⟨name, .optional, fun v acc => return store (← readOption read v) acc⟩

def requiredMember {α : Type} (name : String) (read : σ → Result α) (store : α → β → β) :
    Member σ β :=
  ⟨name, .required, fun v acc => return store (← read v) acc⟩

/-- A member whose starting value stands in if it is missing. -/
def defaultedMember {α : Type} (name : String) (read : σ → Result α) (store : α → β → β) :
    Member σ β :=
  ⟨name, .defaulted, fun v acc => return store (← read v) acc⟩

end Record

end AspectForms.Document
