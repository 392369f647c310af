import AspectForms.Component.Source

/-!
The component of one field of a form: a control of its own, or a group around the controls of the
fields inside it.  Every control adds itself to the group that it is handed.
-/

namespace AspectForms

/-- The module of the shared validators, from the directory of the form. -/
def sharedModule : String := "shared/form-validators"

/-- The way to a field: what lies above it, from the root down. -/
structure Trail where
  names : List String := []
  dashes : List String := []
deriving DecidableEq, Repr, Inhabited

/-- The way to the fields inside `f`. -/
def Trail.down (t : Trail) (f : Field) : Trail :=
  ⟨t.names ++ [f.name], t.dashes ++ [f.dashed]⟩

/-- The component of a field as the one above sees it. -/
def Field.registration (t : Trail) (f : Field) : Registration where
  name := f.name
  className := className (t.down f).names
  selector := selector (t.down f).names
  importPath := "./" ++ f.dashed ++ "/" ++ f.dashed ++ ".component"

namespace Control

def definitions (vs : List Validator) : String :=
  Text.join ", " (vs.map (·.definition))

/-- Whether a validator belongs to the class whose name, with a dot, is `owner`. -/
def isFrom (owner : String) (v : Validator) : Bool :=
  owner.toList.isPrefixOf v.definition.toList

/-- Whether the framework's own validators are used. -/
def usesBuiltIn (f : Field) : Bool := f.validators.any (isFrom "Validators.")

def usesShared (f : Field) : Bool := f.validators.any (isFrom Validator.sharedClass)

def imports (t : Trail) (f : Field) (types : List String) : List String :=
  [Component.importLine ["Component", "Input", "OnInit"] "@angular/core",
    Component.importLine (types ++ Component.when (usesBuiltIn f) ["Validators"]) "@angular/forms"] ++
  Component.when (usesShared f)
    [Component.importLine ["FormValidators"] (upLevels (t.down f).names.length ++ sharedModule)]

def classHead (t : Trail) (f : Field) : List String :=
  ["export class " ++ (f.registration t).className ++ " implements OnInit \x7b",
    "  @Input(\x7b required: true \x7d) parent!: FormGroup;",
    "  /** Validators handed down by a composite parent. */",
    "  @Input() extraValidators: ValidatorFn[] = [];"]

def addLine (f : Field) : String :=
  "    this.parent.addControl('" ++ f.name ++ "', this.control);"

def extraLine : String := "    this.control.addValidators(this.extraValidators);"

/-- The choices of an enumeration. -/
def optionsLine (f : Field) : String :=
  "  readonly options: Array<" ++ f.valueType ++ "> = " ++
    Json.text (.array (f.values?.getD [])) ++ ";"

/-- The members of a control for a list, whose items can be added and removed. -/
def listMembers (f : Field) : List String :=
  ["  readonly control = new FormArray<FormControl<unknown>>([], [" ++ definitions f.direct ++ "]);",
    "  private readonly itemValidators: ValidatorFn[] = [" ++ definitions f.lifted ++ "];",
    "",
    "  addItem(value: unknown = null): void \x7b",
    "    this.control.push(new FormControl<unknown>(value, [...this.itemValidators, ...this.extraValidators]));",
    "  \x7d",
    "",
    "  removeItem(index: number): void \x7b",
    "    this.control.removeAt(index);",
    "  \x7d"]

def valueMember (f : Field) : String :=
  "  readonly control = new FormControl<" ++ f.valueType ++ " | null>(null, [" ++
    definitions f.direct ++ "]);"

/-- The class of a control for a value or a list. -/
def leafCode (t : Trail) (f : Field) : List String :=
  let many := f.kind == .list
  imports t f
    (Component.when many ["FormArray"] ++
      ["FormControl", "FormGroup", "ReactiveFormsModule", "ValidatorFn"]) ++
  [""] ++
  Component.decorator (f.registration t).selector f.dashed ["ReactiveFormsModule"] ++
  classHead t f ++
  Component.when (f.kind == .enumeration) ["", optionsLine f] ++
  [""] ++
  (if many then listMembers f else [valueMember f]) ++
  ["", "  ngOnInit(): void \x7b"] ++
  Component.when (!many) [extraLine] ++
  [addLine f, "  \x7d", "\x7d"]

/-- What a control suggests: its placeholder, else its format unless the browser shows one of its own,
else its example. -/
def placeholder? (f : Field) : Option String :=
  let format? :=
    match f.kind with
    | .date | .dateTime => none
    | _ => f.dataFormat?
  f.placeholder? <|> format? <|> f.example?.map ("e.g. " ++ ·)

def placeholderAttribute (f : Field) : String :=
  match placeholder? f with
  | some s => " placeholder=\"" ++ s ++ "\""
  | none => ""

def inputType : FieldKind → String
  | .number => "number"
  | .date => "date"
  | .dateTime => "datetime-local"
  | _ => "text"

def controlMarkup (id : String) (f : Field) : List String :=
  match f.kind with
  | .boolean => ["  <input id=\"" ++ id ++ "\" type=\"checkbox\" [formControl]=\"control\" />"]
  | .textArea =>
    ["  <textarea id=\"" ++ id ++ "\" [formControl]=\"control\"" ++ placeholderAttribute f ++
      "></textarea>"]
  | .enumeration =>
    ["  <select id=\"" ++ id ++ "\" [formControl]=\"control\">",
      "    <option [ngValue]=\"null\">-</option>",
      "    @for (option of options; track $index) \x7b",
      "      <option [ngValue]=\"option\">\x7b\x7b option \x7d\x7d</option>",
      "    \x7d",
      "  </select>"]
  | .list =>
    ["  <div id=\"" ++ id ++ "\" class=\"list\">",
      "    @for (item of control.controls; track $index) \x7b",
      "      <div class=\"list-item\">",
      "        <input type=\"text\" [formControl]=\"item\"" ++ placeholderAttribute f ++ " />",
      "        <button type=\"button\" (click)=\"removeItem($index)\">Remove</button>",
      "      </div>",
      "    \x7d",
      "    <button type=\"button\" (click)=\"addItem()\">Add</button>",
      "  </div>"]
  | kind =>
    ["  <input id=\"" ++ id ++ "\" type=\"" ++ inputType kind ++ "\" [formControl]=\"control\"" ++
      placeholderAttribute f ++ " />"]

def hintMarkup (f : Field) : List String :=
  match f.hint? with
  | some s => ["  <small class=\"hint\">" ++ s ++ "</small>"]
  | none => []

/-- The lines that show an error once the control was visited. -/
def errorMarkup (message : String) : List String :=
  ["  @if (control.invalid && control.touched) \x7b",
    "    <small class=\"error\">" ++ message ++ "</small>",
    "  \x7d"]

def leafMarkup (t : Trail) (f : Field) : List String :=
  let id := dashedPath (t.down f).names
  ["<div class=\"field\">",
    "  <label for=\"" ++ id ++ "\">" ++ f.label ++
      (if f.direct.any (·.isRequired) then " *" else "") ++ "</label>"] ++
  controlMarkup id f ++ hintMarkup f ++
  errorMarkup "Please enter a valid value." ++ ["</div>"]

def componentImports (inner : List Registration) : List String :=
  inner.map fun r => Component.importLine [r.className] r.importPath

/-- The class of a group around other controls. -/
def groupCode (t : Trail) (f : Field) (inner : List Registration) : List String :=
  imports t f ["FormGroup", "ReactiveFormsModule", "ValidatorFn"] ++
  componentImports inner ++
  [""] ++
  Component.decorator (f.registration t).selector f.dashed
    ("ReactiveFormsModule" :: inner.map (·.className)) ++
  classHead t f ++
  ["  readonly control = new FormGroup(\x7b\x7d, [" ++ definitions f.direct ++ "]);",
    "  /** Validators applied to every child control. */",
    "  readonly childValidators: ValidatorFn[] = [" ++ definitions f.lifted ++ "];",
    "",
    "  ngOnInit(): void \x7b",
    extraLine,
    addLine f,
    "  \x7d",
    "\x7d"]

/-- The markup of a group around other controls. -/
def groupMarkup (f : Field) (inner : List Registration) : List String :=
  ["<fieldset class=\"group\">", "  <legend>" ++ f.label ++ "</legend>"] ++
  (inner.map fun r =>
    "  <" ++ r.selector ++ " [parent]=\"control\" [extraValidators]=\"childValidators\"></" ++
      r.selector ++ ">") ++
  hintMarkup f ++
  errorMarkup "Please check the values of this group." ++ ["</fieldset>"]

end Control

/-- The component of a field, below the directories of the fields above it. -/
def Field.component (t : Trail) (f : Field) : Component :=
  let directory := Path.ofNames (t.down f).dashes
  match f.children? with
  | some fs =>
    let inner := fs.map (registration (t.down f))
    ⟨directory, f.dashed, Control.groupCode t f inner, Control.groupMarkup f inner⟩
  | none => ⟨directory, f.dashed, Control.leafCode t f, Control.leafMarkup t f⟩

end AspectForms
