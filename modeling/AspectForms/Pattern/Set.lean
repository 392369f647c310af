import AspectForms.Pattern.Escape

/-!
Sets of characters between brackets.
-/

namespace AspectForms.Pattern

namespace Reading

/-- The opening of a set: its bracket, whether it is negated, and the signs that only there stand for
themselves. -/
structure Opening where
  span : Span
  negated : Bool
  items : List CharSet

/-- Hyphens at the start of a set, newest first. -/
def openingHyphens (start : Nat) : Nat → List CharSet → Reading (List CharSet)
  | 0, items => return items
  | fuel + 1, items => do
    if (← current) = some '-' then
      let span ← charSpan
      if !(← bumpSpace) then fail .classUnclosed ⟨start, start⟩
      openingHyphens start fuel (.atom span (.literal '-' false) :: items)
    else return items

def setOpening : Reading Opening := do
  let start ← here
  if !(← bumpSpace) then fail .classUnclosed ⟨start, ← here⟩
  let negated := (← current) == some '^'
  if negated then
    if !(← bumpSpace) then fail .classUnclosed ⟨start, ← here⟩
  let hyphens ← openingHyphens start (← budget) []
  if hyphens.isEmpty && (← current) == some ']' then
    let span ← charSpan
    if !(← bumpSpace) then fail .classUnclosed ⟨start, ← here⟩
    return ⟨⟨start, ← here⟩, negated, [.atom span (.literal ']' false)]⟩
  return ⟨⟨start, ← here⟩, negated, hyphens⟩

/-- A named class such as `[:alpha:]`; anything else is left alone. -/
def asciiClass? : Reading (Option CharSet) := do
  let cursor ← get
  match cursor.rest with
  | '[' :: ':' :: rest =>
    let (negated, rest) :=
      match rest with
      | '^' :: rest => (true, rest)
      | rest => (false, rest)
    let name := rest.takeWhile (· != ':')
    let length := 2 + (if negated then 1 else 0) + name.length + 2
    if [':', ']'].isPrefixOf (rest.drop name.length)
        && asciiClassNames.contains (String.ofList name) then
      set (cursor.advance length)
      return some (.ascii ⟨cursor.offset, ← here⟩ (String.ofList name) negated)
    else return none
  | _ => return none

def setAtom (a : Span × Atom) : Reading CharSet :=
  match a.2 with
  | .dot | .assertion => fail .classEscapeInvalid a.1
  | _ => return .atom a.1 a.2

def rangeBound (a : Span × Atom) : Reading Char :=
  match a.2 with
  | .literal c _ => return c
  | _ => fail .classRangeLiteral a.1

/-- A character, a class or a range; `opened` is the set around it. -/
def setRange (opened : Span) (c : Char) : Reading CharSet := do
  let first ← literalOrEscape c
  skipSpace
  if ← atEnd then fail .classUnclosed opened
  let after := (← get).peekSpace?
  if (← current) != some '-' || after == some ']' || after == some '-' then setAtom first
  else
    if !(← bumpSpace) then fail .classUnclosed opened
    match ← current with
    | none => fail .classUnclosed opened
    | some c =>
      let last ← literalOrEscape c
      let span : Span := ⟨first.1.start, last.1.stop⟩
      let low ← rangeBound first
      let high ← rangeBound last
      if high < low then fail .classRangeInvalid span
      return .range span first last

def setOperators : List (String × SetOperator) :=
  [("&&", .intersection), ("--", .difference), ("~~", .symmetricDifference)]

def setOperator? : Reading (Option SetOperator) := do
  let rest := (← get).rest
  match setOperators.find? fun o => o.1.toList.isPrefixOf rest with
  | some (signs, op) =>
    let _ ← bumpIf signs
    return some op
  | none => return none

/-- The left operand of an operator whose right operand is being read. -/
abbrev Pending := Option (SetOperator × CharSet)

def Pending.close (pending : Pending) (right : CharSet) : CharSet :=
  match pending with
  | some (op, left) => .operation ⟨left.span.start, right.span.stop⟩ op left right
  | none => right

/-- The items of a set up to its closing bracket, which is passed.  `start` is where the items being
read begin, `items` holds them newest first. -/
def setItems (opening : Opening) : Nat → Pending → Nat → List CharSet → Reading CharSet
  | 0, _, _, _ => fail .classUnclosed opening.span
  | fuel + 1, pending, start, items => do
    skipSpace
    match ← current with
    | none => fail .classUnclosed opening.span
    | some ']' =>
      let set := pending.close (.ofItems start items.reverse)
      let _ ← bump
      return .bracketed ⟨opening.span.start, ← here⟩ opening.negated set
    | some '[' =>
      match ← asciiClass? with
      | some s => setItems opening fuel pending start (s :: items)
      | none =>
        let inner ← setOpening
        let s ← setItems inner fuel none (← here) inner.items
        setItems opening fuel pending start (s :: items)
    | some c =>
      match ← setOperator? with
      | some op =>
        let left := pending.close (.ofItems start items.reverse)
        setItems opening fuel (some (op, left)) (← here) []
      | none =>
        let s ← setRange opening.span c
        setItems opening fuel pending start (s :: items)

def bracketedSet : Reading Tree := do
  let opening ← setOpening
  match ← setItems opening (← budget) none (← here) opening.items with
  | .bracketed span negated s => return .set span negated s
  | s => return .set s.span false s

end Reading

end AspectForms.Pattern
