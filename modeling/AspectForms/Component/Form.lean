import AspectForms.Component.Control
import AspectForms.Component.SharedValidators

/-!
A form: the shared validators, one component per field, those inside a field before it, and the form
around them.
-/

namespace AspectForms

/-- A field of a forest and what lies above it. -/
structure PlacedField where
  trail : Trail
  field : Field
deriving Inhabited

mutual

/-- A field below `t` and all fields inside it, every field after those inside it. -/
def Field.inside (t : Trail) : Field → List PlacedField
  | ⟨name, dashed, kind, validators, ex, values, unit, children, format, placeholder, hint, rule⟩ =>
    let f : Field :=
      ⟨name, dashed, kind, validators, ex, values, unit, children, format, placeholder, hint, rule⟩
    insideOption (t.down f) children ++ [⟨t, f⟩]
termination_by structural f => f

def insideOption (t : Trail) : Option (List Field) → List PlacedField
  | none => []
  | some fs => insideAll t fs
termination_by structural fs => fs

def insideAll (t : Trail) : List Field → List PlacedField
  | [] => []
  | f :: fs => f.inside t ++ insideAll t fs
termination_by structural fs => fs

end

/-- All fields of a forest, every field after those inside it. -/
def placedFields (fields : List Field) : List PlacedField := insideAll {} fields

def PlacedField.component (p : PlacedField) : Component := p.field.component p.trail

/-- The component of a placed field as the one above sees it. -/
def PlacedField.registration (p : PlacedField) : Registration := p.field.registration p.trail

namespace Form

def code (stem : String) (fields : List Field) (inner : List Registration) : List String :=
  let name := className [stem]
  [Component.importLine ["Component", "EventEmitter", "Output"] "@angular/core",
    Component.importLine ["FormGroup", "ReactiveFormsModule"] "@angular/forms"] ++
  Control.componentImports inner ++
  ["", "export type " ++ name ++ "Value = " ++ objectType fields ++ ";", ""] ++
  Component.decorator (selector [stem]) stem ("ReactiveFormsModule" :: inner.map (·.className)) ++
  ["export class " ++ name ++ " \x7b",
    "  @Output() submitted = new EventEmitter<" ++ name ++ "Value>();",
    "  readonly form = new FormGroup(\x7b\x7d);",
    "",
    "  onSubmit(): void \x7b",
    "    if (this.form.invalid) \x7b",
    "      this.form.markAllAsTouched();",
    "      return;",
    "    \x7d",
    "    this.submitted.emit(this.form.getRawValue() as " ++ name ++ "Value);",
    "  \x7d",
    "",
    "  reset(): void \x7b",
    "    this.form.reset();",
    "  \x7d",
    "\x7d"]

def markup (title : String) (inner : List Registration) : List String :=
  ["<form class=\"form\" [formGroup]=\"form\" (ngSubmit)=\"onSubmit()\">",
    "  <h2>" ++ title ++ "</h2>"] ++
  (inner.map fun r => "  <" ++ r.selector ++ " [parent]=\"form\"></" ++ r.selector ++ ">") ++
  ["  <div class=\"actions\">",
    "    <button type=\"button\" (click)=\"reset()\">Reset</button>",
    "    <button type=\"submit\">Submit</button>",
    "  </div>",
    "</form>"]

def component (stem title : String) (fields : List Field) : Component :=
  let inner := fields.map (Field.registration {})
  ⟨"", stem, code stem fields inner, markup title inner⟩

def sharedDraft : Draft := ⟨sharedModule ++ ".ts", Component.text sharedValidatorLines⟩

/-- All files of a form, in the order in which they are written. -/
def drafts (stem title : String) (fields : List Field) : List Draft :=
  sharedDraft :: ((placedFields fields).flatMap (·.component.drafts) ++
    (component stem title fields).drafts)

/-- The components of the fields in the order in which they are written. -/
def registrations (fields : List Field) : List Registration :=
  (placedFields fields).map (·.registration)

end Form

end AspectForms
