import AspectForms.Pattern.Check
import AspectForms.Text.Letter
import AspectForms.Text.Split

/-!
Which log events are let through: a level for all of them, or for those of one target, span or field.
-/

namespace AspectForms.Logging

/-- How much is let through, from nothing to everything. -/
inductive Level
  | off
  | error
  | warn
  | info
  | debug
  | trace
deriving DecidableEq, Repr

namespace Level

/-- All levels, in the order of their numbers. -/
def all : List Level := [off, error, warn, info, debug, trace]

def word : Level → String
  | off => "off"
  | error => "error"
  | warn => "warn"
  | info => "info"
  | debug => "debug"
  | trace => "trace"

/-- A whole number, with or without a plus sign. -/
def number? (text : String) : Option Nat :=
  let digits := if text.toList.head? = some '+' then text.toList.tail else text.toList
  if digits.isEmpty || !digits.all Char.isDigit then none
  else some (digits.foldl (fun n c => 10 * n + (c.toNat - '0'.toNat)) 0)

/-- The level of a number or of a word in any case; `error` if nothing is said. -/
def ofText? (text : String) : Option Level :=
  match number? text with
  | some n => all[n]?
  | none => if text.isEmpty then some error else all.find? (·.word == text.toLower)

end Level

/-- A field that an event must have, perhaps with a value. -/
structure FieldMatch where
  name : String
  value? : Option String
deriving DecidableEq, Repr

namespace FieldMatch

/-- The spelling of a value: a whole number has one, any other value is a pattern. -/
def value (text : String) : Option String :=
  let digits := text.toList.dropWhile fun c => c = '-' || c = '+'
  if text = "true" || text = "false" then some text
  else
    match Level.number? text, Level.number? (String.ofList digits) with
    | some n, _ => some (toString n)
    | none, some n => if text.toList.head? = some '-' then some ("-" ++ toString n) else some text
    | none, none => if (Pattern.check text).isOk then some text else none

/-- A field and what stands behind its equals sign. -/
def ofText? (text : String) : Option FieldMatch :=
  match Text.splitOn '=' text with
  | [] => none
  | [name] => some ⟨name, none⟩
  | name :: v :: _ => (value v).map fun v => ⟨name, some v⟩

def text (m : FieldMatch) : String :=
  match m.value? with
  | some v => m.name ++ "=" ++ v
  | none => m.name

/-- Fields without a value come first, then names and values decide. -/
def compare (a b : FieldMatch) : Ordering :=
  (Ord.compare a.value?.isSome b.value?.isSome).then <|
    (Ord.compare a.name b.name).then (Ord.compare (a.value?.getD "") (b.value?.getD ""))

end FieldMatch

/-- A level, and the events for which it holds. -/
structure Directive where
  level : Level := .trace
  target? : Option String := none
  span? : Option String := none
  fields : List FieldMatch := []
deriving DecidableEq, Repr

namespace Directive

/-- Compare lists item by item; a list that ends comes first. -/
def compareLists {α : Type} (compare : α → α → Ordering) : List α → List α → Ordering
  | [], [] => .eq
  | [], _ :: _ => .lt
  | _ :: _, [] => .gt
  | a :: as, b :: bs => (compare a b).then (compareLists compare as bs)

/-- Compare what may be missing; nothing comes first. -/
def compareOptions {α : Type} [Ord α] : Option α → Option α → Ordering
  | none, none => .eq
  | none, some _ => .lt
  | some _, none => .gt
  | some a, some b => Ord.compare a b

/-- How specific a directive is: the length of its target counts most, then a span, then the number of
fields; beyond that the texts decide. -/
def compare (a b : Directive) : Ordering :=
  (compareOptions (a.target?.map String.utf8ByteSize) (b.target?.map String.utf8ByteSize)).then <|
    (Ord.compare a.span?.isSome b.span?.isSome).then <|
    (Ord.compare a.fields.length b.fields.length).then <|
    (compareOptions a.target? b.target?).then <|
    (compareOptions a.span? b.span?).then <|
    compareLists FieldMatch.compare a.fields b.fields

/-- Whether events can be told by their kind alone. -/
def isStatic (d : Directive) : Bool := d.span?.isNone && d.fields.all (·.value?.isNone)

/-- Whether an event may have to be looked at in its span. -/
def isDynamic (d : Directive) : Bool := d.span?.isSome || !d.fields.isEmpty

def text (d : Directive) : String :=
  let inner :=
    if d.fields.isEmpty then d.span?.getD ""
    else d.span?.getD "" ++ "\x7b" ++ Text.join "," (d.fields.map FieldMatch.text) ++ "\x7d"
  let scope := d.target?.getD "" ++ (if d.isDynamic then "[" ++ inner ++ "]" else "")
  if d.target?.isSome || d.isDynamic then scope ++ "=" ++ d.level.word else d.level.word

/-- Put a directive among others, the most specific first; it replaces one for the same events. -/
def add (d : Directive) : List Directive → List Directive
  | [] => [d]
  | e :: es =>
    match compare d e with
    | .gt => d :: e :: es
    | .eq => d :: es
    | .lt => e :: add d es

/-- What is being read of a directive, and the place where it starts. -/
inductive Part
  | start
  | word (first : Nat)
  | span (first : Nat)
  | field (first : Nat)
  | fields
  | target
  | level (first : Nat)

/-- A level after its equals sign; everything if nothing is said. -/
def levelAfter (text : String) : Option Level :=
  if text.isEmpty then some .trace else Level.ofText? text

/-- The next part, once the character at place `i` has been read; `piece a b` is the text between two
places. -/
def step (piece : Nat → Option Nat → String) (i : Nat) (c : Char) :
    Part × Directive → Option (Part × Directive)
  | (.start, d) =>
    if c = '[' then some (.span (i + 1), d)
    else if c = '-' || c = ':' || c = '_' || Text.isAlphanumeric c then some (.word i, d)
    else none
  | (.word a, d) =>
    let named := { d with target? := some (piece a (some i)) }
    if c = '=' then some (.level (i + 1), named)
    else if c = '[' then some (.span (i + 1), named)
    else some (.word a, d)
  | (.span a, d) =>
    let name := piece a (some i)
    if c = ']' then some (.target, { d with span? := some name })
    else if c = '\x7b' then
      some (.field (i + 1), { d with span? := if name.isEmpty then none else some name })
    else some (.span a, d)
  | (.field a, d) =>
    if c = '\x7d' || c = ',' then do
      let text := piece a (some i)
      let m ← if text.isEmpty then none else FieldMatch.ofText? text
      return (if c = ',' then .field (i + 1) else .fields, { d with fields := d.fields ++ [m] })
    else some (.field a, d)
  | (.fields, d) => if c = ']' then some (.target, d) else none
  | (.target, d) => if c = '=' then some (.level (i + 1), d) else none
  | (.level a, d) => some (.level a, d)

/-- The directive once all characters have been read. -/
def finish (piece : Nat → Option Nat → String) : Part × Directive → Option Directive
  | (.word a, d) =>
    let text := piece a none
    match Level.ofText? text with
    | some level => some { d with level }
    | none => some { d with target? := some text }
  | (.level a, d) => (levelAfter (piece a none)).map fun level => { d with level }
  | (.target, d) => some d
  | _ => none

/-- The directive of a text.  White space at its ends does not count as characters, but the places in it
count from the first character after that. -/
def ofText? (text : String) : Option Directive :=
  let chars := text.toList
  let piece (a : Nat) (b : Option Nat) : String :=
    String.ofList ((match b with | some b => chars.take b | none => chars).drop a)
  ((Text.trim text).toList.zipIdx.foldlM (fun s c => step piece c.2 c.1 s) (.start, {})).bind
    (finish piece)

end Directive

/-- The directives in force: those told by the kind of an event, and those that need its span. -/
structure Filter where
  statics : List Directive := []
  dynamics : List Directive := []
deriving DecidableEq, Repr

namespace Filter

/-- The filter of some directives, the later ones winning. -/
def ofDirectives (ds : List Directive) : Filter where
  statics :=
    (ds.filter (fun d => !d.isDynamic) ++ ds.filter fun d => d.isDynamic && d.isStatic).foldl
      (fun acc d => d.add acc) []
  dynamics := (ds.filter Directive.isDynamic).foldl (fun acc d => d.add acc) []

def add (f : Filter) (d : Directive) : Filter :=
  if d.isStatic then { f with statics := d.add f.statics }
  else { f with dynamics := d.add f.dynamics }

/-- The filter of directives between commas, if all of them are well formed. -/
def ofText? (text : String) : Option Filter :=
  (((Text.splitOn ',' text).filter (!·.isEmpty)).mapM Directive.ofText?).map ofDirectives

def text (f : Filter) : String :=
  Text.join "," ((f.statics ++ f.dynamics).map Directive.text)

end Filter

end AspectForms.Logging
