import AspectForms.Pattern.Check

/-!
How much room a pattern takes once its repetitions are written out.  A pattern that takes too much is no
error, and nothing can be said about it.

The room is that of an automaton over octets: a step for each octet of a character, a table for a set of
ASCII characters.  The room of the large sets of characters has been measured once, and the sum is an
estimate.  It counts what two members of a set share twice, takes one size for all properties that are not
listed, and knows nothing of octets that characters of a set have in common.  So it may misjudge a pattern
whose room is near the limit.  That takes some hundreds of copies of a large set, as in a word character
repeated 200 to 300 times, or some hundred thousand copies of a single character, as repetitions inside each
other make them; a pattern with far fewer copies stays well below the limit.
-/

namespace AspectForms.Pattern

def stateSize : Nat := 32

def choiceSize : Nat := 8

/-- The largest room of a pattern. -/
def sizeLimit : Nat := 10 * Nat.pow 2 20

/-- The room of a set of ASCII characters in so many ranges. -/
def tableSize (ranges : Nat) : Nat := 2 * stateSize + choiceSize * ranges

def ShortClass.size : ShortClass → Bool → Nat
  | .digit, false => 4600
  | .digit, true => 11400
  | .space, false => 680
  | .space, true => 1924
  | .word, false => 46688
  | .word, true => 43828

/-- The room of nearly all characters. -/
def anySize : Nat := 1000

/-- Properties that many ranges of characters have, with the room they take. -/
def propertySizes : List (List String × Nat) :=
  [(["l", "letter", "alpha", "alphabetic"], 40456),
    (["ll", "lowercaseletter", "lowercase", "lower"], 27288),
    (["lu", "uppercaseletter", "uppercase", "upper"], 26284),
    (["lo", "otherletter"], 32040),
    (["m", "mark", "combiningmark"], 17452),
    (["mn", "nonspacingmark"], 18140),
    (["n", "number"], 9100),
    (["p", "punct", "punctuation", "po", "otherpunctuation"], 11336),
    (["s", "symbol", "so", "othersymbol"], 15384),
    (["c", "other", "cn", "unassigned"], 41096)]

def PropertyQuery.size (q : PropertyQuery) : Nat :=
  let word := match q with
    | .name s => s
    | .valued _ v => v
  match propertySizes.find? (·.1.contains (Property.normalize word)) with
  | some p => p.2
  | none => 4000

def Atom.size : Atom → Nat
  | literal c _ => stateSize * c.utf8Size
  | dot => anySize
  | assertion => stateSize
  | short kind negated => kind.size negated
  | property q _ => q.size

def Atom.isAscii : Atom → Bool
  | literal c _ => c.toNat < 0x80
  | _ => false

/-- What a set holds: how many ranges of ASCII characters, and the room of all else in it. -/
structure Holding where
  ranges : Nat
  beyond : Nat

/-- What two sets hold together. -/
def Holding.add (a b : Holding) : Holding := ⟨a.ranges + b.ranges, a.beyond + b.beyond⟩

def Atom.holding (a : Atom) : Holding := if a.isAscii then ⟨1, 0⟩ else ⟨0, a.size⟩

/-- The room of a set, or of all characters outside it. -/
def Holding.size (negated : Bool) (h : Holding) : Nat :=
  if negated then anySize + h.beyond
  else if h.beyond = 0 then tableSize h.ranges
  else choiceSize * h.ranges + h.beyond

mutual

def CharSet.holding : CharSet → Holding
  | .empty _ => ⟨0, 0⟩
  | .atom _ a => a.holding
  | .range _ first last => if last.2.isAscii then ⟨1, 0⟩ else ⟨0, first.2.size + last.2.size⟩
  | .ascii _ _ negated => if negated then ⟨4, anySize⟩ else ⟨4, 0⟩
  | .bracketed _ negated s => if negated then ⟨0, s.holding.size true⟩ else s.holding
  | .union _ items => setsHolding items
  | .operation _ _ l r => l.holding.add r.holding
termination_by structural s => s

def setsHolding : List CharSet → Holding
  | [] => ⟨0, 0⟩
  | s :: ss => s.holding.add (setsHolding ss)
termination_by structural ss => ss

end

mutual

/-- The room of a pattern. -/
def Tree.size : Tree → Nat
  | .empty _ => stateSize
  | .flags _ _ => 0
  | .atom _ a => a.size
  | .set _ negated s => s.holding.size negated
  | .repetition _ least most t =>
    let once := t.size
    match most with
    | none => max least 1 * once + stateSize + choiceSize
    | some 0 => stateSize
    | some most => least * once + (most - least) * (once + stateSize + choiceSize)
  | .group _ _ t => t.size
  | .alternation _ ts => sizes ts + 2 * stateSize
  | .concat _ ts => sizes ts
termination_by structural t => t

def sizes : List Tree → Nat
  | [] => 0
  | t :: ts => t.size + sizes ts
termination_by structural ts => ts

end

/-- What is known of a text that may be a pattern. -/
inductive Verdict
  | accepted
  | faulty (f : Fault)
  /-- It is a pattern, and takes too much room. -/
  | oversized

/-- What is known of a text. -/
def verdict (pattern : String) : Verdict :=
  match check pattern, Tree.read pattern with
  | .error f, _ => .faulty f
  | .ok (), .ok t => if sizeLimit < t.size then .oversized else .accepted
  | .ok (), .error f => .faulty f

end AspectForms.Pattern
