import AspectForms.Yaml.Scalar.Block
import AspectForms.Yaml.Scalar.Plain
import AspectForms.Yaml.Tag

/-!
The tokens of a text.  A scalar, an alias or a bracket may turn out to be a key when a colon follows on
the same line; until then it is a candidate, and the tokens of the key are put in front of it afterwards.
-/

namespace AspectForms.Yaml

/-- A token that may turn out to start a key. -/
structure Candidate where
  /-- The number of tokens before it. -/
  number : Nat
  /-- It stands where only a key can. -/
  required : Bool
  left : Nat
  line : Nat
  column : Nat

/-- What has been read so far. -/
structure Lexing where
  /-- The tokens, last first. -/
  tokens : List Token := []
  count : Nat := 0
  /-- Of each open block collection, one more than its column; the innermost first. -/
  margins : List Nat := []
  /-- The candidates of the open flow brackets, the innermost first, and last that of the block. -/
  candidates : List (Option Candidate) := [none]
  /-- Whether a key may start here. -/
  keyAllowed : Bool := true

namespace Lexing

/-- Whether a flow bracket is open. -/
def inFlow (s : Lexing) : Bool := 1 < s.candidates.length

/-- One more than the column of the innermost block collection. -/
def margin (s : Lexing) : Nat := s.margins.head?.getD 0

/-- The candidate of the innermost bracket. -/
def candidate? (s : Lexing) : Option Candidate := s.candidates.head?.join

/-- The state after one more token. -/
def push (t : Token) (s : Lexing) : Lexing :=
  { s with tokens := t :: s.tokens, count := s.count + 1 }

/-- The state with a token put behind the first `n`. -/
def insert (n : Nat) (t : Token) (s : Lexing) : Lexing :=
  let later := s.count - n
  { s with tokens := s.tokens.take later ++ t :: s.tokens.drop later, count := s.count + 1 }

/-- Open a block collection at `column`, unless one is open there; its token goes behind the first `n`. -/
def openBlock (column n : Nat) (t : Token) (s : Lexing) : Lexing :=
  if !s.inFlow && s.margin ≤ column then
    { s.insert n t with margins := (column + 1) :: s.margins }
  else s

/-- Close the block collections that start at column `limit` or after. -/
def closeBlocks (limit : Nat) (s : Lexing) : Lexing :=
  if s.inFlow then s
  else
    let kept := s.margins.dropWhile (limit < ·)
    let closed := s.margins.length - kept.length
    { s with
      tokens := List.replicate closed .blockEnd ++ s.tokens
      count := s.count + closed
      margins := kept }

/-- Put the candidate of the innermost bracket. -/
def setCandidate (k : Option Candidate) (s : Lexing) : Lexing :=
  { s with candidates := k :: s.candidates.tail }

def openFlow (s : Lexing) : Lexing := { s with candidates := none :: s.candidates }

/-- Close a flow bracket, if one is open. -/
def closeFlow (s : Lexing) : Lexing :=
  if s.inFlow then { s with candidates := s.candidates.tail } else s

/-- State whether a key may start next. -/
def allowKey (b : Bool) (s : Lexing) : Lexing := { s with keyAllowed := b }

/-- How long a key may be. -/
def keyLimit : Nat := 1024

/-- Whether a candidate is too far back to be a key. -/
def isStale (here : Cursor) (k : Candidate) : Bool :=
  k.line < here.line || here.left + keyLimit < k.left

/-- Drop the candidates that are too far back, if they may be dropped. -/
def dropStale? (here : Cursor) (s : Lexing) : Option Lexing :=
  if s.candidates.any fun k => k.any fun k => isStale here k && k.required then none
  else some { s with candidates := s.candidates.map fun k => k.filter fun k => !isStale here k }

/-- Drop the candidate of the innermost bracket, if it may be dropped. -/
def drop? (s : Lexing) : Option Lexing :=
  if s.candidate?.any (·.required) then none else some (s.setCandidate none)

/-- Take the next token as a candidate, if a key may start here. -/
def note? (here : Cursor) (s : Lexing) : Option Lexing :=
  if s.keyAllowed then do
    let s ← s.drop?
    let required := !s.inFlow && s.margin = here.column + 1
    return s.setCandidate (some ⟨s.count, required, here.left, here.line, here.column⟩)
  else some s

/-- Put an entry or key mark that stands at `here`, in a block collection that `t` opens. -/
def mark? (here : Cursor) (opening mark : Token) (keyAfter : Bool) (s : Lexing) : Option Lexing := do
  if !s.inFlow && !s.keyAllowed then failure
  let s ← (s.openBlock here.column s.count opening).drop?
  return (s.allowKey keyAfter).push mark

/-- Put the mark of a value that stands at `here`.  What comes before it is a key if it can be. -/
def value? (here : Cursor) (s : Lexing) : Option Lexing :=
  match s.candidate? with
  | some k =>
    let s := (s.insert k.number .key).openBlock k.column k.number .blockMappingStart
    some (((s.setCandidate none).allowKey false).push .value)
  | none => do
    if !s.inFlow && !s.keyAllowed then failure
    let s := s.openBlock here.column s.count .blockMappingStart
    return (s.allowKey !s.inFlow).push .value

end Lexing

namespace Reading

/-- Pass what may stand between tokens.  Where a key may start in a block, no tab may stand before it.
Returns whether a key may start after it. -/
def betweenTokens (flow : Bool) : Nat → Bool → Reading Bool
  | 0, keyAllowed => return keyAllowed
  | fuel + 1, keyAllowed => do
    let _ ← takeWhile fun c => c = ' ' || (c = '\t' && (flow || !keyAllowed))
    skipComment
    if (← current).any isBreak then
      let _ ← lineBreak
      betweenTokens flow fuel (!flow || keyAllowed)
    else return keyAllowed

/-- Pass the next token, of which the first character is `c`. -/
def lexToken (c : Char) (s : Lexing) : Reading Lexing := do
  let here ← get
  let blankNext := endsWord here.rest.tail
  let flow := s.inFlow
  if here.column = 0 && c = '%' then
    let s ← ((s.closeBlocks 0).drop? : Option Lexing)
    return (s.allowKey false).push (.directive (← directive))
  else if ← atDocumentMark then
    let s ← ((s.closeBlocks 0).drop? : Option Lexing)
    pass 3
    return (s.allowKey false).push (if c = '-' then .documentStart else .documentEnd)
  else if c = '[' || c = '\x7b' then
    let s ← (s.note? here : Option Lexing)
    pass 1
    return (s.openFlow.allowKey true).push (if c = '[' then .flowSequenceStart else .flowMappingStart)
  else if c = ']' || c = '\x7d' then
    let s ← (s.drop? : Option Lexing)
    pass 1
    return (s.closeFlow.allowKey false).push (if c = ']' then .flowSequenceEnd else .flowMappingEnd)
  else if c = ',' then
    let s ← (s.drop? : Option Lexing)
    pass 1
    return (s.allowKey true).push .flowEntry
  else if c = '-' && blankNext then
    pass 1
    (s.mark? here .blockSequenceStart .blockEntry true : Option Lexing)
  else if c = '?' && (flow || blankNext) then
    pass 1
    (s.mark? here .blockMappingStart .key !flow : Option Lexing)
  else if c = ':' && (flow || blankNext) then
    pass 1
    (s.value? here : Option Lexing)
  else if c = '*' || c = '&' then
    let s ← (s.note? here : Option Lexing)
    let name ← anchorName
    return (s.allowKey false).push (if c = '*' then .alias name else .anchor name)
  else if c = '!' then
    let s ← (s.note? here : Option Lexing)
    return (s.allowKey false).push (← tag flow)
  else if (c = '|' || c = '>') && !flow then
    let s ← (s.drop? : Option Lexing)
    pass 1
    let text ← block (c = '>') s.margin
    return (s.allowKey true).push (.scalar (if c = '>' then .folded else .literal) text)
  else if c = '\'' || c = '"' then
    let s ← (s.note? here : Option Lexing)
    return (s.allowKey false).push (.scalar .quoted (← quoted (c = '"')))
  else if startsPlain flow here.rest then
    let s ← (s.note? here : Option Lexing)
    let (text, broken) ← plain flow s.margin
    return (s.allowKey broken).push (.scalar .plain text)
  else failure

/-- Pass all tokens that are left. -/
def lexTokens : Nat → Lexing → Reading Lexing
  | 0, _ => failure
  | fuel + 1, s => do
    let s := s.allowKey (← betweenTokens s.inFlow (← budget) s.keyAllowed)
    let here ← get
    let s ← (s.dropStale? here : Option Lexing)
    match here.rest with
    | [] => ((s.closeBlocks 0).drop? : Option Lexing)
    | c :: _ => lexTokens fuel (← lexToken c (s.closeBlocks (here.column + 1)))

end Reading

/-- The tokens of a text, if it has no fault that shows in them. -/
def Token.ofText? (text : String) : Option (List Token) := do
  let chars := text.toList
  if !chars.all isAllowed then failure
  let (s, _) ← (Reading.lexTokens (chars.length + 1) {}).run (.start chars)
  return s.tokens.reverse

end AspectForms.Yaml
