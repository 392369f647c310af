import AspectForms.Command.Basic

/-!
Requests as arguments on a command line: a word for the request, and options behind it in any order.

An option is written out behind two dashes, with its value after `=` or as the next argument; some have a
letter behind one dash, and several such letters may share the dash.  Every option may stand once.
-/

namespace AspectForms.Arguments

/-- What an option takes. -/
inductive Kind
  /-- Nothing. -/
  | flag
  /-- A path, which is not empty. -/
  | path
  /-- Any text. -/
  | text
  /-- The word of a target. -/
  | target
deriving DecidableEq, Repr

structure Spec where
  name : String
  letter? : Option Char
  kind : Kind
deriving DecidableEq, Repr

/-- Why arguments are no request. -/
inductive Refusal
  /-- Help was asked for. -/
  | help
  | invalid
deriving DecidableEq, Repr

/-- The options met so far by name, each with its value. -/
abbrev Given := List (String × String)

/-- Whether a value fits an option. -/
def Kind.allows : Kind → String → Bool
  | flag, _ => true
  | path, v => !v.isEmpty
  | text, _ => true
  | target, v => Target.all.any (·.word == v)

/-- Add an option that has not been met. -/
def give (s : Spec) (v : String) (given : Given) : Except Refusal Given :=
  if (given.lookup s.name).isSome || !s.kind.allows v then .error .invalid
  else .ok (given ++ [(s.name, v)])

/-- Whether an argument is an option and can be no value. -/
def isOption (arg : String) : Bool := arg.toList.head? = some '-' && arg != "-"

/-- Split a text at its first equals sign. -/
def splitValue (text : List Char) : String × Option String :=
  let name := String.ofList (text.takeWhile (· ≠ '='))
  match text.dropWhile (· ≠ '=') with
  | [] => (name, none)
  | _ :: v => (name, some (String.ofList v))

/-- Read the letters behind one dash.  The last one may want a value that is still to come. -/
def readLetters (specs : List Spec) : Given → List Char → Except Refusal (Given × Option Spec)
  | given, [] => .ok (given, none)
  | given, c :: rest =>
    match specs.find? (·.letter? = some c) with
    | none => .error (if c = 'h' then .help else .invalid)
    | some s =>
      if s.kind = .flag then do
        let given ← give s "" given
        readLetters specs given rest
      else
        match rest with
        | [] => .ok (given, some s)
        | '=' :: v => do return (← give s (String.ofList v) given, none)
        | v => do return (← give s (String.ofList v) given, none)

/-- Read an option written out, without its dashes.  It may want a value that is still to come. -/
def readWord (specs : List Spec) (given : Given) (text : List Char) :
    Except Refusal (Given × Option Spec) :=
  let (name, v?) := splitValue text
  match specs.find? (·.name = name), v? with
  | none, none => .error (if name = "help" then .help else .invalid)
  | none, some _ => .error .invalid
  | some s, some v =>
    if s.kind = .flag then .error .invalid else do return (← give s v given, none)
  | some s, none =>
    if s.kind = .flag then do return (← give s "" given, none) else .ok (given, some s)

def readOption (specs : List Spec) (given : Given) (arg : String) :
    Except Refusal (Given × Option Spec) :=
  match arg.toList with
  | '-' :: '-' :: text => readWord specs given text
  | '-' :: letters => if letters.isEmpty then .error .invalid else readLetters specs given letters
  | _ => .error .invalid

/-- Read options; nothing may follow two dashes that stand alone. -/
def readOptions (specs : List Spec) : Given → List String → Except Refusal Given
  | given, [] => .ok given
  | given, arg :: rest =>
    if arg = "--" then if rest.isEmpty then .ok given else .error .invalid
    else
      match readOption specs given arg with
      | .error e => .error e
      | .ok (given, none) => readOptions specs given rest
      | .ok (given, some s) =>
        match rest with
        | [] => .error .invalid
        | v :: rest =>
          if isOption v then .error .invalid
          else
            match give s v given with
            | .error e => .error e
            | .ok given => readOptions specs given rest

/-- The options that more than one request has. -/
def modelSpec : Spec := ⟨"model", some 'm', .path⟩

/-- The option that gives a configuration. -/
def configSpec : Spec := ⟨"config", some 'c', .path⟩

/-- The option that chooses an aspect or entity. -/
def elementSpec : Spec := ⟨"element", none, .text⟩

/-- A request by its word: its options, and what is asked for once they are given, the model first. -/
structure Request where
  word : String
  specs : List Spec
  build : String → Given → Command

def Given.has (given : Given) (name : String) : Bool := (given.lookup name).isSome

def requests : List Request :=
  [{ word := "generate"
     specs :=
      [modelSpec, configSpec, ⟨"target", some 't', .target⟩, ⟨"output", some 'o', .path⟩,
        ⟨"name", none, .text⟩, elementSpec, ⟨"force", some 'f', .flag⟩,
        ⟨"dry-run", none, .flag⟩, ⟨"format", none, .flag⟩]
     build := fun model given => .generate {
      model
      config? := given.lookup "config"
      target := ((given.lookup "target").bind fun w => Target.all.find? (·.word == w)).getD .form
      output? := given.lookup "output"
      name? := given.lookup "name"
      element? := given.lookup "element"
      force := Given.has given "force"
      dryRun := Given.has given "dry-run"
      format := Given.has given "format" } },
    { word := "inspect"
      specs := [modelSpec, configSpec, elementSpec]
      build := fun model given =>
        .inspect model (given.lookup "config") (given.lookup "element") },
    { word := "lint"
      specs := [modelSpec, ⟨"fail-on-error", none, .flag⟩, ⟨"errors-only", none, .flag⟩]
      build := fun model given =>
        .lint model (Given.has given "fail-on-error") (Given.has given "errors-only") }]

def request? (word : String) : Option Request := requests.find? (·.word == word)

/-- Why arguments that start with no request are refused. -/
def refusal : List String → Refusal
  | ["help"] => .help
  | ["help", word] => if word = "help" || (request? word).isSome then .help else .invalid
  | arg :: _ =>
    if arg = "--help" then .help
    else
      match arg.toList with
      | '-' :: 'h' :: _ => .help
      | _ => .invalid
  | [] => .invalid

end AspectForms.Arguments

namespace AspectForms

open Arguments in
def Command.ofArguments (args : List String) : Except Refusal Command :=
  match args with
  | [] => .error .invalid
  | word :: rest =>
    match request? word with
    | none => .error (refusal args)
    | some r => do
      let given ← readOptions r.specs [] rest
      match given.lookup modelSpec.name with
      | some model => return r.build model given
      | none => .error .invalid

end AspectForms
