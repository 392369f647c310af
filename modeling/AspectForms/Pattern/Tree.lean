import AspectForms.Pattern.Fault

/-!
Patterns as trees.  Every node keeps its place in the text.
-/

namespace AspectForms.Pattern

/-- The flags that change how a pattern is read or what it means. -/
inductive Flag
  | ignoreCase
  | multiLine
  | dotMatchesAll
  | swapGreed
  | unicode
  | crlf
  | verbose
deriving DecidableEq, Repr

def Flag.ofChar? : Char → Option Flag
  | 'i' => some .ignoreCase
  | 'm' => some .multiLine
  | 's' => some .dotMatchesAll
  | 'U' => some .swapGreed
  | 'u' => some .unicode
  | 'R' => some .crlf
  | 'x' => some .verbose
  | _ => none

/-- Flags that are set or cleared, in text order. -/
abbrev FlagChanges := List (Flag × Bool)

/-- What some changes make of a flag. -/
def FlagChanges.of? (changes : FlagChanges) (flag : Flag) : Option Bool := changes.lookup flag

def asciiClassNames : List String :=
  ["alnum", "alpha", "ascii", "blank", "cntrl", "digit", "graph", "lower", "print", "punct",
    "space", "upper", "word", "xdigit"]

/-- The classes that one letter stands for. -/
inductive ShortClass
  | digit
  | space
  | word
deriving DecidableEq, Repr

inductive PropertyQuery
  /-- A property that a character has, its general category or its script. -/
  | name (s : String)
  | valued (name value : String)
deriving DecidableEq, Repr

/-- What one character or escape means. -/
inductive Atom
  /-- `byte` tells `\xFF` from the character itself. -/
  | literal (c : Char) (byte : Bool)
  | dot
  | assertion
  | short (kind : ShortClass) (negated : Bool)
  | property (query : PropertyQuery) (negated : Bool)
deriving DecidableEq, Repr

inductive SetOperator
  | intersection
  | difference
  | symmetricDifference
deriving DecidableEq, Repr

inductive CharSet
  | empty (at_ : Nat)
  | atom (span : Span) (a : Atom)
  | range (span : Span) (first last : Span × Atom)
  | ascii (span : Span) (name : String) (negated : Bool)
  | bracketed (span : Span) (negated : Bool) (set : CharSet)
  | union (span : Span) (items : List CharSet)
  | operation (span : Span) (op : SetOperator) (left right : CharSet)
deriving Inhabited, Repr

def CharSet.span : CharSet → Span
  | empty n => ⟨n, n⟩
  | atom s _ => s
  | range s .. => s
  | ascii s .. => s
  | bracketed s .. => s
  | union s _ => s
  | operation s .. => s

inductive Tree
  | empty (span : Span)
  | flags (span : Span) (changes : FlagChanges)
  | atom (span : Span) (a : Atom)
  | set (span : Span) (negated : Bool) (s : CharSet)
  | repetition (span : Span) (least : Nat) (most : Option Nat) (t : Tree)
  | group (span : Span) (changes : FlagChanges) (t : Tree)
  | alternation (span : Span) (branches : List Tree)
  | concat (span : Span) (items : List Tree)
deriving Inhabited, Repr

/-- The place of a pattern. -/
def Tree.span : Tree → Span
  | empty s => s
  | flags s _ => s
  | atom s _ => s
  | set s .. => s
  | repetition s .. => s
  | group s .. => s
  | alternation s _ => s
  | concat s _ => s

/-- Items one after the other; a single one stands for itself. -/
def Tree.ofItems (span : Span) : List Tree → Tree
  | [] => empty span
  | [t] => t
  | ts => concat span ts

/-- The union of some sets; a single one stands for itself. -/
def CharSet.ofItems (start : Nat) : List CharSet → CharSet
  | [] => empty start
  | [s] => s
  | s :: ss => union ⟨s.span.start, (ss.getLastD s).span.stop⟩ (s :: ss)

end AspectForms.Pattern
