import AspectForms.Text.Letter
import AspectForms.Text.Split

/-!
Words inside a name, and the spellings made from them: `kebab-case` for files and selectors,
`Title Case` for labels, `UpperCamelCase` for classes.

A name is cut at every character that is neither letter nor number, between a lower-case and an
upper-case letter, and before the last letter of an upper-case run that a lower-case letter follows.
Digits never cut.
-/

namespace AspectForms.Text

/-- The case of the last cased letter of the word being read. -/
inductive Hump
  | none
  | lower
  | upper
deriving DecidableEq, Repr

/-- The case after one more character; characters without case leave it alone. -/
def Hump.after (h : Hump) (c : Char) : Hump :=
  if isLowercase c then .lower else if isUppercase c then .upper else h

/-- The words of a text made of letters and numbers only; `word` is the one being read. -/
def cutHumps (h : Hump) (word : List Char) : List Char → List (List Char)
  | [] => if word.isEmpty then [] else [word]
  | [c] => [word ++ [c]]
  | c :: next :: rest =>
    if h.after c = .lower ∧ isUppercase next then
      (word ++ [c]) :: cutHumps .none [] (next :: rest)
    else if h = .upper ∧ isUppercase c ∧ isLowercase next then
      word :: cutHumps .none [c] (next :: rest)
    else cutHumps (h.after c) (word ++ [c]) (next :: rest)

/-- All words of a name, in order. -/
def words (s : String) : List (List Char) :=
  (splitWhen (fun c => !isAlphanumeric c) s.toList).flatMap (cutHumps .none [])

/-- A word in lower case; a capital sigma at its end becomes the final form. -/
def lowerWord : List Char → List Char
  | [] => []
  | [c] => if c = 'Σ' then ['ς'] else lowerChar c
  | c :: cs => lowerChar c ++ lowerWord cs

/-- A word with its first letter in upper case and the rest in lower case. -/
def capitalWord : List Char → List Char
  | [] => []
  | c :: cs => upperChar c ++ lowerWord cs

/-- The words in lower case, joined by hyphens. -/
def kebabCase (s : String) : String :=
  String.ofList (joinWith '-' ((words s).map lowerWord))

/-- The words capitalised, joined by spaces. -/
def titleCase (s : String) : String :=
  String.ofList (joinWith ' ' ((words s).map capitalWord))

/-- The words capitalised and run together. -/
def upperCamelCase (s : String) : String :=
  String.ofList ((words s).flatMap capitalWord)

end AspectForms.Text
