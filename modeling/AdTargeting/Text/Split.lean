set_option autoImplicit false

/-
Splitting a text at every occurrence of a character. There is always one more part than there are
occurrences, and joining the parts again gives the text.
-/

namespace AdTargeting

def splitAt (separator : Char) : List Char → List (List Char)
  | [] => [[]]
  | c :: rest =>
      match splitAt separator rest with
      | [] => [[]]
      | part :: parts =>
          if c = separator then [] :: part :: parts else (c :: part) :: parts

def joinWith (separator : Char) : List (List Char) → List Char
  | [] => []
  | [part] => part
  | part :: next :: parts => part ++ separator :: joinWith separator (next :: parts)

theorem splitAt_ne_nil (separator : Char) (text : List Char) : splitAt separator text ≠ [] := by
  cases text with
  | nil => exact List.cons_ne_nil _ _
  | cons c rest =>
      simp only [splitAt]
      split
      · exact List.cons_ne_nil _ _
      · split <;> exact List.cons_ne_nil _ _

theorem joinWith_splitAt (separator : Char) (text : List Char) :
    joinWith separator (splitAt separator text) = text := by
  induction text with
  | nil => rfl
  | cons c rest ih =>
      cases parts : splitAt separator rest with
      | nil => exact absurd parts (splitAt_ne_nil separator rest)
      | cons part others =>
          rw [parts] at ih
          simp only [splitAt, parts]
          by_cases same : c = separator
          · simp only [same, ↓reduceIte, joinWith, ih, List.nil_append]
          · cases others <;> simp_all [joinWith]

end AdTargeting
