import AdTargeting.Proofs.Condition.RoundTrip

set_option autoImplicit false

/-
Where tokens stand. The position that a token has is that of its first sign in the text that spells
the row, and what follows the sign of a comparison there is its literal.
-/

namespace AdTargeting

namespace Token

/-- A parenthesis or a comparison is found in a text at the position that it has. -/
def StandsIn (text : List Char) : Token → Prop
  | opening position => text[position]? = some '('
  | closing position => text[position]? = some ')'
  | comparison _ _ operator position literal =>
      ∃ rest, text.drop position = operator.symbol.toList ++ (literal ++ rest) ∧
        (∀ c ∈ literal, ¬ EndsLiteral c) ∧ ∀ c, rest.head? = some c → EndsLiteral c
  | relation _ _ => True
  | stray _ _ => True

theorem standsIn_stray (text : List Char) (name : String) (start : Nat) :
    (stray name start).StandsIn text := trivial

/-- Tokens that are found after any beginning of the right size are found after one more part. -/
theorem standsIn_after {before rest : List Char} {position : Nat} {row : List Token}
    (part : List Char) (start : before.length = position)
    (later : ∀ before : List Char, before.length = position + part.length →
      ∀ token ∈ row, token.StandsIn (before ++ rest)) :
    ∀ token ∈ row, token.StandsIn (before ++ (part ++ rest)) := by
  rw [← List.append_assoc]
  apply later
  rw [List.length_append, start]

theorem getElem?_here {before rest : List Char} {position : Nat} (c : Char)
    (start : before.length = position) : (before ++ c :: rest)[position]? = some c := by
  rw [← start, getElem?_behind, List.head?_cons]

theorem Spells.standsIn_append {name : NamePart} {position : Nat} {text : List Char}
    {row : List Token} (spelled : Spells name position text row) (before : List Char)
    (start : before.length = position) : ∀ token ∈ row, token.StandsIn (before ++ text) := by
  induction spelled generalizing before with
  | finish name position => exact name.forall_unused (standsIn_stray _)
  | opening later ih =>
      exact NamePart.forall_unused_cons (standsIn_stray _) _ (getElem?_here '(' start)
        (standsIn_after ['('] start ih)
  | closing later ih =>
      exact NamePart.forall_unused_cons (standsIn_stray _) _ (getElem?_here ')' start)
        (standsIn_after [')'] start ih)
  | single value alone later ih =>
      exact NamePart.forall_unused_cons (standsIn_stray _) _ trivial (standsIn_after [value.mark] start ih)
  | doubled value later ih =>
      exact NamePart.forall_unused_cons (standsIn_stray _) _ trivial
        (standsIn_after [value.mark, value.mark] start ih)
  | @comparison name position rest row operator literal longest inside boundary later ih =>
      have found : ∀ token ∈ row,
          token.StandsIn (before ++ ((operator.symbol.toList ++ literal) ++ rest)) := by
        apply standsIn_after _ start
        intro read length
        apply ih
        rw [length, List.length_append, Nat.add_assoc]
      rw [List.append_assoc] at found
      refine List.forall_mem_cons.mpr ⟨⟨rest, ?_, inside, boundary⟩, found⟩
      rw [← start, List.drop_left]
  | @blank name position c rest row space later ih => exact standsIn_after [c] start ih
  | @first position c rest row inside later ih => exact standsIn_after [c] start ih
  | @further begun first read position c rest row inside later ih =>
      exact standsIn_after [c] start ih

theorem Spells.standsIn {name : NamePart} {text : List Char} {row : List Token}
    (spelled : Spells name 0 text row) : ∀ token ∈ row, token.StandsIn text := by
  have found := spelled.standsIn_append [] rfl
  rwa [List.nil_append] at found

end Token

end AdTargeting
