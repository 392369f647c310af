import AspectForms.Pattern.Set

/-!
Reading a pattern into a tree.
-/

namespace AspectForms.Pattern

namespace Reading

/-- Split off the last item, which is to be repeated; `items` are newest first. -/
def repeated (items : List Tree) : Reading (Tree × List Tree) := do
  match items with
  | [] => fail .repetitionMissing (← pointSpan)
  | .empty _ :: _ => fail .repetitionMissing (← pointSpan)
  | .flags .. :: _ => fail .repetitionMissing (← pointSpan)
  | t :: ts => return (t, ts)

/-- Pass the mark that makes a repetition lazy. -/
def lazyMark : Reading Unit := do
  if (← current) = some '?' then
    let _ ← bump

def signRepetition (least : Nat) (most : Option Nat) (items : List Tree) : Reading (List Tree) := do
  let (t, ts) ← repeated items
  let _ ← bump
  lazyMark
  return .repetition ⟨t.span.start, ← here⟩ least most t :: ts

/-- Pass characters while they are blank. -/
def skipBlank (spaced : Bool) : Nat → Reading Unit
  | 0 => return
  | fuel + 1 => do
    match ← current with
    | none => return
    | some c =>
      if Text.isBlank c then
        let _ ← if spaced then bumpSpace else bump
        skipBlank spaced fuel

/-- A decimal number between blanks, or what is wrong with it. -/
def decimal : Reading (Except Fault Nat) := do
  skipBlank false (← budget)
  let start ← here
  let digits ← takeSpaced Char.isDigit (← budget)
  let span : Span := ⟨start, ← here⟩
  skipBlank true (← budget)
  let n := digits.foldl (fun n c => n * 10 + (c.toNat - 48)) 0
  if digits.isEmpty then return .error ⟨.repetitionCountEmpty, span, none⟩
  else if Nat.pow 2 32 ≤ n then return .error ⟨.decimalInvalid, span, none⟩
  else return .ok n

/-- The value of a number that may be faulty. -/
def checked (n : Except Fault Nat) : Reading Nat :=
  match n with
  | .ok n => return n
  | .error f => throw f

/-- A repetition by counts between braces. -/
def countedRepetition (items : List Tree) : Reading (List Tree) := do
  let start ← here
  let (t, ts) ← repeated items
  let unclosed {α : Type} : Reading α := do fail .repetitionCountUnclosed ⟨start, ← here⟩
  if !(← bumpSpace) then unclosed
  let first ← decimal
  if ← atEnd then unclosed
  let (least, most) ←
    if (← current) = some ',' then do
      if !(← bumpSpace) then unclosed
      if (← current) != some '\x7d' then
        let least ← checked first
        let most ← checked (← decimal)
        pure (least, some most)
      else
        let least ← checked first
        pure (least, none)
    else do
      let count ← checked first
      pure (count, some count)
  if (← current) != some '\x7d' then unclosed
  if ← bumpSpace then lazyMark
  if (most.map fun m => decide (m < least)) = some true then
    fail .repetitionCountInvalid ⟨start, ← here⟩
  return .repetition ⟨t.span.start, ← here⟩ least most t :: ts

def isNameChar (first : Bool) (c : Char) : Bool :=
  if first then c == '_' || Text.isAlphabetic c
  else c == '_' || c == '.' || c == '[' || c == ']' || Text.isAlphanumeric c

/-- The rest of a group name, up to its angle bracket. -/
def nameChars (first : Bool) : Nat → Reading (List Char)
  | 0 => return []
  | fuel + 1 => do
    match ← current with
    | none => return []
    | some c =>
      if c = '>' then return []
      if !isNameChar first c then fail .groupNameInvalid (← charSpan)
      let _ ← bump
      return c :: (← nameChars false fuel)

/-- The name of a group, which no other group may have. -/
def groupName : Reading Unit := do
  if ← atEnd then fail .groupNameUnexpectedEnd (← pointSpan)
  let start ← here
  let name := String.ofList (← nameChars true (← budget))
  let stop ← here
  if ← atEnd then fail .groupNameUnexpectedEnd (← pointSpan)
  let _ ← bump
  if name.isEmpty then fail .groupNameEmpty ⟨start, start⟩
  match (← get).names.lookup name with
  | some other => throw ⟨.groupNameDuplicate, ⟨start, stop⟩, some other⟩
  | none => modify fun c => { c with names := (name, ⟨start, stop⟩) :: c.names }

structure FlagItems where
  changes : List (Flag × Bool × Span) := []
  negation? : Option Span := none
  /-- The last item was the negation. -/
  dangling : Bool := false

/-- Flags up to a colon or a closing parenthesis. -/
def flagItems : Nat → FlagItems → Reading FlagChanges
  | 0, _ => return []
  | fuel + 1, items => do
    match ← current with
    | none => fail .flagUnexpectedEnd (← pointSpan)
    | some c =>
      if c = ':' ∨ c = ')' then
        match items.negation?, items.dangling with
        | some span, true => fail .flagDanglingNegation span
        | _, _ => return (items.changes.map fun e => (e.1, e.2.1)).reverse
      else
        let span ← charSpan
        let items ←
          if c = '-' then
            match items.negation? with
            | some other => throw ⟨.flagRepeatedNegation, span, some other⟩
            | none => pure { items with negation? := some span, dangling := true }
          else
            match Flag.ofChar? c with
            | none => fail .flagUnrecognized span
            | some flag =>
              match items.changes.lookup flag with
              | some (_, other) => throw ⟨.flagDuplicate, span, some other⟩
              | none =>
                pure { items with
                  changes := (flag, items.negation?.isNone, span) :: items.changes
                  dangling := false }
        if !(← bump) then fail .flagUnexpectedEnd (← pointSpan)
        flagItems fuel items

/-- What an opening parenthesis begins. -/
inductive GroupStart
  /-- Flags for what follows, without a group of their own. -/
  | flags (span : Span) (changes : FlagChanges)
  | group (span : Span) (changes : FlagChanges)

def lookAroundSigns : List String := ["?=", "?!", "?<=", "?<!"]

/-- An opening parenthesis and what belongs to it. -/
def groupStart : Reading GroupStart := do
  let opened ← charSpan
  let _ ← bump
  skipSpace
  let rest := (← get).rest
  match lookAroundSigns.find? fun s => s.toList.isPrefixOf rest with
  | some signs =>
    let _ ← bumpIf signs
    fail .unsupportedLookAround ⟨opened.start, ← here⟩
  | none => pure ()
  let inner ← pointSpan
  if ← bumpIf "?P<" then
    groupName
    return .group opened []
  if ← bumpIf "?<" then
    groupName
    return .group opened []
  if ← bumpIf "?" then
    if ← atEnd then fail .groupUnclosed opened
    let start ← here
    let changes ← flagItems (← budget) {}
    let closed := (← current) == some ')'
    let bare := (← here) == start
    let _ ← bump
    if closed then
      if bare then fail .repetitionMissing inner
      return .flags ⟨opened.start, ← here⟩ changes
    return .group opened changes
  return .group opened []

/-- The branches and items read so far, both newest first, with the place where each begins. -/
structure Draft where
  start : Nat
  branches : List Tree := []
  itemsStart : Nat
  items : List Tree := []

/-- An empty draft at the current place. -/
def Draft.new : Reading Draft := return { start := ← here, itemsStart := ← here }

def Draft.concat (d : Draft) (stop : Nat) : Tree := .ofItems ⟨d.itemsStart, stop⟩ d.items.reverse

def Draft.close (d : Draft) (stop : Nat) : Tree :=
  match d.branches with
  | [] => d.concat stop
  | bs => .alternation ⟨d.start, stop⟩ (d.concat stop :: bs).reverse

/-- Branches up to the end of the pattern, or to the closing parenthesis of the group `opened`. -/
def branches (opened : Option Span) : Nat → Draft → Reading Tree
  | 0, d => return d.close (← here)
  | fuel + 1, d => do
    skipSpace
    let stop ← here
    match ← current with
    | none =>
      match opened with
      | some span => fail .groupUnclosed span
      | none => return d.close stop
    | some ')' =>
      match opened with
      | some _ => return d.close stop
      | none => fail .groupUnopened (← charSpan)
    | some '|' =>
      let branch := d.concat stop
      let _ ← bump
      branches opened fuel
        { d with branches := branch :: d.branches, itemsStart := ← here, items := [] }
    | some '(' =>
      match ← groupStart with
      | .flags span changes =>
        match changes.of? .verbose with
        | some v => modify fun c => { c with verbose := v }
        | none => pure ()
        branches opened fuel { d with items := .flags span changes :: d.items }
      | .group span changes =>
        let before := (← get).verbose
        modify fun c => { c with verbose := (changes.of? .verbose).getD before }
        let inner ← branches (some span) fuel (← Draft.new)
        modify fun c => { c with verbose := before }
        let _ ← bump
        let t := .group ⟨span.start, ← here⟩ changes inner
        branches opened fuel { d with items := t :: d.items }
    | some '[' =>
      let t ← bracketedSet
      branches opened fuel { d with items := t :: d.items }
    | some '?' => branches opened fuel { d with items := ← signRepetition 0 (some 1) d.items }
    | some '*' => branches opened fuel { d with items := ← signRepetition 0 none d.items }
    | some '+' => branches opened fuel { d with items := ← signRepetition 1 none d.items }
    | some '\x7b' => branches opened fuel { d with items := ← countedRepetition d.items }
    | some c =>
      let (span, a) ← primitive c
      branches opened fuel { d with items := .atom span a :: d.items }

end Reading

def Tree.read (pattern : String) : Except Fault Tree :=
  let go : Reading Tree := do
    Reading.branches none (← Reading.budget) (← Reading.Draft.new)
  go.run' ⟨pattern.toList, 0, false, []⟩

end AspectForms.Pattern
