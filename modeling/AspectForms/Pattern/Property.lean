import AspectForms.Pattern.PropertyTable
import AspectForms.Pattern.Tree

/-!
Which character properties there are.  Case, blanks, hyphens, underscores and a leading `is` do not
count in their names.
-/

namespace AspectForms.Pattern

namespace Property

/-- A name in the form in which names are compared. -/
def normalize (name : String) : String :=
  let (is, rest) :=
    match name.toList with
    | a :: b :: rest => if a.toLower = 'i' ∧ b.toLower = 's' then (true, rest) else (false, a :: b :: rest)
    | cs => (false, cs)
  let kept := rest.filter fun c => c.toNat < 0x80 && c != ' ' && c != '_' && c != '-'
  let lower := kept.map Char.toLower
  -- `isc` is a name of its own
  if is && lower == ['c'] then "isc" else String.ofList lower

/-- The properties that have values, with the names of those. -/
def valued : List (List String × List String) :=
  [(["gc", "generalcategory"], categoryNames), (["sc", "script"], scriptNames),
    (["scx", "scriptextensions"], scriptNames), (["age"], ageNames),
    (["gcb", "graphemeclusterbreak"], graphemeBreakNames), (["wb", "wordbreak"], wordBreakNames),
    (["sb", "sentencebreak"], sentenceBreakNames)]

end Property

def PropertyQuery.fault? : PropertyQuery → Option FaultKind
  | name s =>
    let n := Property.normalize s
    if Property.flagNames.contains n || Property.categoryNames.contains n
        || Property.scriptNames.contains n then none
    else some .propertyNotFound
  | valued s v =>
    match Property.valued.find? fun p => p.1.contains (Property.normalize s) with
    | none => some .propertyNotFound
    | some p => if p.2.contains (Property.normalize v) then none else some .propertyValueNotFound

end AspectForms.Pattern
