import AspectForms.Toml.Scalar

/-!
TOML documents as they are written: one statement a line.
-/

namespace AspectForms.Toml

/-- How many brackets and braces may be open at once. -/
def nestingLimit : Nat := 80

namespace Reading

/-- A key without dots. -/
def simpleKey (fuel : Nat) : Reading String := do
  match ← current with
  | some '"' => quoted false '"' fuel
  | some '\'' => quoted false '\'' fuel
  | _ =>
    let name ← takeWhile isBareChar
    require !name.isEmpty
    return String.ofList name

/-- A key with the dots in it; blanks may stand around each part. -/
def key : Nat → Reading (List String)
  | 0 => failure
  | fuel + 1 => do
    skipBlanks
    let part ← simpleKey fuel
    skipBlanks
    if ← passIf "." then return part :: (← key fuel) else return [part]

/-- The characters of a value without quotes.  A blank belongs to it between a date and a time. -/
def bareText : Reading (List Char) := do
  let isPart (c : Char) : Bool := c.isAlphanum || "+-_.:".toList.contains c
  let text ← takeWhile isPart
  match ← get with
  | ' ' :: rest =>
    if afterDate? text = some [] && rest.head?.any Char.isDigit then
      pass 1
      return text ++ ' ' :: (← takeWhile isPart)
    else return text
  | _ => return text

mutual

/-- A value inside `depth` brackets. -/
def value (depth : Nat) : Nat → Reading Node
  | 0 => failure
  | fuel + 1 => do
    match ← current with
    | some '"' => return .string (← quoted true '"' fuel)
    | some '\'' => return .string (← quoted true '\'' fuel)
    | some '[' =>
      require (depth < nestingLimit)
      pass 1
      return .array (← items (depth + 1) fuel)
    | some '\x7b' =>
      require (depth < nestingLimit)
      pass 1
      members (depth + 1) (.table .inline []) fuel
    | _ => (Node.ofBare? (← bareText) : Option Node)

/-- The items of an array, up to and with its bracket.  A comma may follow the last one. -/
def items (depth : Nat) : Nat → Reading (List Node)
  | 0 => failure
  | fuel + 1 => do
    skipLines fuel
    if ← passIf "]" then return []
    let v ← value depth fuel
    skipLines fuel
    if ← passIf "," then return v :: (← items depth fuel)
    expect "]"
    return [v]

/-- The rest of a table between braces, up to and with its brace.  A comma may follow the last member. -/
def members (depth : Nat) (table : Node) : Nat → Reading Node
  | 0 => failure
  | fuel + 1 => do
    skipLines fuel
    if ← passIf "\x7d" then return table
    let path ← key fuel
    expect "="
    skipBlanks
    let v ← value depth fuel
    let table ← (Node.assign path v table : Option Node)
    skipLines fuel
    if ← passIf "," then return ← members depth table fuel
    expect "\x7d"
    return table

end

def statement (fuel : Nat) : Reading Statement := do
  if ← passIf "[[" then
    let path ← key fuel
    expect "]]"
    return .repeatedHeader path
  else if ← passIf "[" then
    let path ← key fuel
    expect "]"
    return .header path
  else
    let path ← key fuel
    expect "="
    skipBlanks
    return .assignment path (← value 0 fuel)

def statements : Nat → Reading (List Statement)
  | 0 => failure
  | fuel + 1 => do
    skipLines fuel
    if (← get).isEmpty then return []
    let s ← statement fuel
    finishLine
    return s :: (← statements fuel)

end Reading

/-- The table that a text spells.  A byte order mark in front of it does not count. -/
def Node.ofText? (text : String) : Option Node := do
  let chars := text.toList
  let chars := if chars.head? = some '\ufeff' then chars.tail else chars
  let (statements, _) ← (Reading.statements (2 * chars.length + 2)).run chars
  Node.ofStatements? statements

end AspectForms.Toml
