set_option autoImplicit false

/-
Replacing every occurrence of one text in another. Occurrences are taken from the left and do not
overlap, and what is put in is not searched again.
-/

namespace AdTargeting

/-- Substitution that first drops `pending` characters of an occurrence already replaced. -/
def substituteFrom (old new : List Char) : Nat → List Char → List Char
  | _, [] => []
  | pending + 1, _ :: rest => substituteFrom old new pending rest
  | 0, c :: rest =>
      if old.isPrefixOf (c :: rest) then
        new ++ substituteFrom old new (old.length - 1) rest
      else
        c :: substituteFrom old new 0 rest

def substitute (old new text : List Char) : List Char := substituteFrom old new 0 text

end AdTargeting
