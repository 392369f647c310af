import AspectForms.Field.Validator

/-!
Fields: what a generated form, table or card shows for a property, before any markup is chosen.
-/

namespace AspectForms

structure Field where
  name : String
  /-- The name as it stands in file names. -/
  dashed : String
  kind : FieldKind
  validators : List Validator := []
  example? : Option String := none
  values? : Option (List Value) := none
  unit? : Option String := none
  children? : Option (List Field) := none
  dataFormat? : Option String := none
  placeholder? : Option String := none
  hint? : Option String := none
  rule? : Option String := none
deriving Inhabited

namespace Field

def children (f : Field) : List Field := f.children?.getD []

/-- The validators of the control itself. -/
def direct (f : Field) : List Validator := f.validators.filter (·.direct)

/-- The validators of every child or item. -/
def lifted (f : Field) : List Validator := f.validators.filter fun v => !v.direct

/-- Whether a value is demanded. -/
def isRequired (f : Field) : Bool := f.validators.any (·.isRequired)

end Field

def Validator.toValue (v : Validator) : Value :=
  .object [("name", .string v.name), ("definition", .string v.definition),
    ("isDirectGroupValidator", .bool v.direct)]

/-- A field of an object that is left out if absent. -/
def optionalEntry (key : String) (v : Option Value) : List (String × Value) :=
  match v with
  | some v => [(key, v)]
  | none => []

mutual

/-- The description of a field as a value; what is absent is left out. -/
def Field.toValue : Field → Value
  | ⟨name, dashed, kind, validators, ex, values, unit, children, format, placeholder, hint, rule⟩ =>
    .object <|
      [("name", .string name), ("nameDasherized", .string dashed),
        ("strategy", .string kind.word), ("validators", .array (validators.map (·.toValue)))] ++
      optionalEntry "exampleValue" (ex.map .string) ++
      optionalEntry "values" (values.map .array) ++
      optionalEntry "unitName" (unit.map .string) ++
      optionalEntry "children" (fieldsValue? children) ++
      optionalEntry "dataFormat" (format.map .string) ++
      optionalEntry "placeholder" (placeholder.map .string) ++
      optionalEntry "hint" (hint.map .string) ++
      optionalEntry "deconstructionRule" (rule.map .string)
termination_by structural f => f

def fieldsValue? : Option (List Field) → Option Value
  | none => none
  | some fs => some (.array (fieldValues fs))
termination_by structural fs => fs

def fieldValues : List Field → List Value
  | [] => []
  | f :: fs => f.toValue :: fieldValues fs
termination_by structural fs => fs

end

end AspectForms
