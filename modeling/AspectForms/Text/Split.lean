/-!
Cutting a text at separators.  Main statement: joining the pieces with the separator gives the text
back, so cutting loses nothing.
-/

namespace AspectForms.Text

/-- The pieces between the characters that satisfy `p`; a text without any is one piece. -/
def splitWhen (p : Char → Bool) : List Char → List (List Char)
  | [] => [[]]
  | c :: cs =>
    if p c then [] :: splitWhen p cs
    else
      match splitWhen p cs with
      | [] => [[c]]
      | w :: ws => (c :: w) :: ws

theorem splitWhen_ne_nil (p : Char → Bool) (cs : List Char) : splitWhen p cs ≠ [] := by
  cases cs with
  | nil => simp [splitWhen]
  | cons c cs =>
    by_cases h : p c
    · simp [splitWhen, h]
    · cases hs : splitWhen p cs <;> simp [splitWhen, h, hs]

/-- No piece holds a separator. -/
theorem not_mem_splitWhen (p : Char → Bool) (cs : List Char) :
    ∀ w ∈ splitWhen p cs, ∀ c ∈ w, p c = false := by
  induction cs with
  | nil => simp [splitWhen]
  | cons c cs ih =>
    by_cases h : p c
    · intro w hw
      simp only [splitWhen, h, ↓reduceIte, List.mem_cons] at hw
      rcases hw with rfl | hw
      · simp
      · exact ih w hw
    · cases hs : splitWhen p cs with
      | nil => exact absurd hs (splitWhen_ne_nil p cs)
      | cons v vs =>
        intro w hw
        simp only [splitWhen, h, hs, Bool.false_eq_true, ↓reduceIte, List.mem_cons] at hw
        rcases hw with rfl | hw
        · intro d hd
          rcases List.mem_cons.1 hd with rfl | hd
          · simpa using h
          · exact ih v (by simp [hs]) d hd
        · exact ih w (by simp [hs, hw])

/-- Put `sep` between consecutive pieces. -/
def joinWith (sep : Char) : List (List Char) → List Char
  | [] => []
  | [w] => w
  | w :: ws => w ++ sep :: joinWith sep ws

theorem joinWith_splitWhen (sep : Char) (cs : List Char) :
    joinWith sep (splitWhen (· == sep) cs) = cs := by
  induction cs with
  | nil => rfl
  | cons c cs ih =>
    cases hs : splitWhen (· == sep) cs with
    | nil => exact absurd hs (splitWhen_ne_nil _ cs)
    | cons w ws =>
      rw [hs] at ih
      by_cases h : c = sep
      · subst h
        simp [splitWhen, hs, joinWith, ih]
      · cases ws <;> simp_all [splitWhen, joinWith]

/-- The pieces of a string between occurrences of one character. -/
def splitOn (sep : Char) (s : String) : List String :=
  (splitWhen (· == sep) s.toList).map String.ofList

/-- What follows the last character that satisfies `p`; the whole text if there is none. -/
def afterLast (p : Char → Bool) (cs : List Char) : List Char :=
  (splitWhen p cs).getLastD []

/-- The strings with `sep` between consecutive ones. -/
def join (sep : String) (parts : List String) : String :=
  sep.intercalate parts

end AspectForms.Text
