import AspectForms.Pattern.Property
import AspectForms.Pattern.Reader

/-!
Whether a text is a pattern: it can be read, is not nested too deeply, and every part of it means
something.  Without the Unicode flag a part may only match ASCII, since texts hold no loose bytes.
-/

namespace AspectForms.Pattern

/-- How deeply patterns may be nested. -/
def nestLimit : Nat := 250

/-- One level deeper, if that is allowed. -/
def deeper (depth : Nat) (span : Span) : Except Fault Nat :=
  if nestLimit ≤ depth then .error ⟨.nestLimitExceeded nestLimit, span, none⟩ else .ok (depth + 1)

mutual

def CharSet.checkDepth (depth : Nat) : CharSet → Except Fault Unit
  | .bracketed span _ s => do s.checkDepth (← deeper depth span)
  | .union span items => do checkDepths (← deeper depth span) items
  | .operation span _ l r => do
    let d ← deeper depth span
    l.checkDepth d
    r.checkDepth d
  | _ => .ok ()
termination_by structural s => s

def checkDepths (depth : Nat) : List CharSet → Except Fault Unit
  | [] => .ok ()
  | s :: ss => do
    s.checkDepth depth
    checkDepths depth ss
termination_by structural ss => ss

end

mutual

def Tree.checkDepth (depth : Nat) : Tree → Except Fault Unit
  | .set span _ s => do s.checkDepth (← deeper depth span)
  | .repetition span _ _ t => do t.checkDepth (← deeper depth span)
  | .group span _ t => do t.checkDepth (← deeper depth span)
  | .alternation span ts => do treeDepths (← deeper depth span) ts
  | .concat span ts => do treeDepths (← deeper depth span) ts
  | _ => .ok ()
termination_by structural t => t

/-- Check the nesting of several patterns. -/
def treeDepths (depth : Nat) : List Tree → Except Fault Unit
  | [] => .ok ()
  | t :: ts => do
    t.checkDepth depth
    treeDepths depth ts
termination_by structural ts => ts

end

/-- Stop with a fault at a place unless `ok`. -/
def demand (ok : Bool) (kind : FaultKind) (span : Span) : Except Fault Unit :=
  if ok then .ok () else .error ⟨kind, span, none⟩

/-- Check what one atom means, outside a set or in it. -/
def Atom.check (unicode inSet : Bool) (span : Span) : Atom → Except Fault Unit
  | literal c byte => do
    if !unicode then
      demand (!byte || c.toNat < 0x80) .invalidText span
      if inSet then demand (c.toNat < 0x80) .unicodeNotAllowed span
  | dot => demand unicode .invalidText span
  | assertion => .ok ()
  | short _ negated => demand (unicode || !negated) .invalidText span
  | property query _ => do
    demand unicode .unicodeNotAllowed span
    match query.fault? with
    | some kind => .error ⟨kind, span, none⟩
    | none => .ok ()

mutual

def CharSet.check (unicode : Bool) : CharSet → Except Fault Unit
  | .empty _ => .ok ()
  | .atom span a => a.check unicode true span
  | .range _ first last => do
    first.2.check unicode true first.1
    last.2.check unicode true last.1
  | .ascii span _ negated => demand (unicode || !negated) .invalidText span
  | .bracketed span negated s => do
    s.check unicode
    demand (unicode || !negated) .invalidText span
  | .union _ items => checkSets unicode items
  | .operation _ _ l r => do
    l.check unicode
    r.check unicode
termination_by structural s => s

def checkSets (unicode : Bool) : List CharSet → Except Fault Unit
  | [] => .ok ()
  | s :: ss => do
    s.check unicode
    checkSets unicode ss
termination_by structural ss => ss

end

mutual

/-- Check what a pattern means; the flag for what follows it in its group. -/
def Tree.check (unicode : Bool) : Tree → Except Fault Bool
  | .empty _ => .ok unicode
  | .flags _ changes => .ok ((changes.of? .unicode).getD unicode)
  | .atom span a => do
    a.check unicode false span
    return unicode
  | .set span negated s => do
    s.check unicode
    demand (unicode || !negated) .invalidText span
    return unicode
  | .repetition _ _ _ t => t.check unicode
  | .group _ changes t => do
    let _ ← t.check ((changes.of? .unicode).getD unicode)
    return unicode
  | .alternation _ ts => checkTrees unicode ts
  | .concat _ ts => checkTrees unicode ts
termination_by structural t => t

/-- Check patterns one after the other. -/
def checkTrees (unicode : Bool) : List Tree → Except Fault Bool
  | [] => .ok unicode
  | t :: ts => do
    let u ← t.check unicode
    checkTrees u ts
termination_by structural ts => ts

end

def check (pattern : String) : Except Fault Unit := do
  let t ← Tree.read pattern
  t.checkDepth 0
  let _ ← t.check true

end AspectForms.Pattern
