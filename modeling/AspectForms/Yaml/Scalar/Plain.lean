import AspectForms.Yaml.Scalar.Fold

/-!
Scalars without quotes.
-/

namespace AspectForms.Yaml

/-- The marks that bound scalars inside flow brackets. -/
def isFlowMark (c : Char) : Bool :=
  c = ',' || c = '[' || c = ']' || c = '\x7b' || c = '\x7d'

/-- The marks with which no plain scalar starts. -/
def isIndicator (c : Char) : Bool :=
  "-?:,[]\x7b\x7d#&*!|>'\"%@`".toList.contains c

def startsPlain (flow : Bool) : List Char → Bool
  | [] => false
  | c :: more =>
    !(isBlank c || isBreak c || isIndicator c) ||
      (c = '-' && !more.head?.any isBlank) ||
      (!flow && (c = '?' || c = ':') && !endsWord more)

/-- The characters of a plain scalar up to a blank or a mark.  Inside flow brackets no colon may touch a
mark. -/
def plainWord? (flow : Bool) : List Char → Option (List Char)
  | [] => some []
  | c :: more =>
    if isBlank c || isBreak c then some []
    else if flow && c = ':' && more.head?.any (fun d => isFlowMark d || d = '?') then none
    else if c = ':' && endsWord more then some []
    else if flow && isFlowMark c then some []
    else (plainWord? flow more).map (c :: ·)

namespace Reading

/-- Pass words and gaps; what has been read, last character first, and the gap at its end. -/
def plainWords (flow : Bool) (margin : Nat) : Nat → List Char → Gap → Reading (List Char × Gap)
  | 0, text, g => return (text, g)
  | fuel + 1, text, g => do
    if ← atDocumentMark then return (text, g)
    if (← current) = some '#' then return (text, g)
    let word ← (plainWord? flow (← rest) : Option (List Char))
    pass word.length
    let (text, g) := if word.isEmpty then (text, g) else (word.reverse ++ (g.text ++ text), {})
    if !(← current).any fun c => isBlank c || isBreak c then return (text, g)
    let g ← gap margin (← budget) g
    if !flow && (← column) < margin then return (text, g)
    plainWords flow margin fuel text g

/-- A plain scalar: its text, and whether a line ended after it.  Outside flow brackets its lines start
at column `margin` or after. -/
def plain (flow : Bool) (margin : Nat) : Reading (String × Bool) := do
  let (text, g) ← plainWords flow margin (← budget) [] {}
  return (String.ofList text.reverse, g.broken)

end Reading

end AspectForms.Yaml
