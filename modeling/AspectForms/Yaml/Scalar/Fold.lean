import AspectForms.Yaml.Cursor

/-!
Blanks and line breaks between the words of a scalar, and what they stand for.
-/

namespace AspectForms.Yaml

/-- A single line break stands for a space, and the first of several for nothing. -/
def fold : List Char → List Char
  | ['\n'] => [' ']
  | '\n' :: breaks => breaks
  | breaks => breaks

/-- What stands between two words, each part last character first. -/
structure Gap where
  /-- Whether a line has ended. -/
  broken : Bool := false
  /-- The blanks, which count only if no line has ended. -/
  blanks : List Char := []
  breaks : List Char := []

/-- The text that a gap stands for, last character first. -/
def Gap.text (g : Gap) : List Char :=
  if g.broken then (fold g.breaks.reverse).reverse else g.blanks

namespace Reading

/-- Pass blanks and line breaks.  On a new line no tab may come before column `margin`. -/
def gap (margin : Nat) : Nat → Gap → Reading Gap
  | 0, g => return g
  | fuel + 1, g => do
    match ← current with
    | none => return g
    | some c =>
      if isBlank c then
        require !(g.broken && c = '\t' && (← column) < margin)
        pass 1
        gap margin fuel (if g.broken then g else { g with blanks := c :: g.blanks })
      else if isBreak c then
        let text ← lineBreak
        gap margin fuel { broken := true, breaks := text ++ g.breaks }
      else return g

end Reading

end AspectForms.Yaml
