import AdTargeting.Condition.Token
import AdTargeting.Proofs.Text.Parts

set_option autoImplicit false

/-
Parentheses of a row of tokens, by counting. Nothing here builds a tree or keeps a stack.
-/

namespace AdTargeting

namespace Token

def isOpening : Token → Bool
  | opening _ => true
  | _ => false

def isClosing : Token → Bool
  | closing _ => true
  | _ => false

def openings (row : List Token) : Nat := row.countP isOpening

def closings (row : List Token) : Nat := row.countP isClosing

/-- A row that closes what it opens and nothing else. -/
structure Matched (row : List Token) : Prop where
  total : openings row = closings row
  within : ∀ before, before <+: row → closings before ≤ openings before

@[simp] theorem openings_nil : openings [] = 0 := rfl

@[simp] theorem closings_nil : closings [] = 0 := rfl

@[simp] theorem openings_append (first second : List Token) :
    openings (first ++ second) = openings first + openings second := List.countP_append

@[simp] theorem closings_append (first second : List Token) :
    closings (first ++ second) = closings first + closings second := List.countP_append

@[simp] theorem openings_opening (position : Nat) (rest : List Token) :
    openings (opening position :: rest) = openings rest + 1 := List.countP_cons

@[simp] theorem closings_opening (position : Nat) (rest : List Token) :
    closings (opening position :: rest) = closings rest := List.countP_cons

@[simp] theorem openings_closing (position : Nat) (rest : List Token) :
    openings (closing position :: rest) = openings rest := List.countP_cons

@[simp] theorem closings_closing (position : Nat) (rest : List Token) :
    closings (closing position :: rest) = closings rest + 1 := List.countP_cons

theorem openings_neutral {token : Token} (rest : List Token) (neutral : token.isOpening = false) :
    openings (token :: rest) = openings rest := by
  rw [openings, List.countP_cons_of_neg (by simp [neutral]), openings]

theorem closings_neutral {token : Token} (rest : List Token) (neutral : token.isClosing = false) :
    closings (token :: rest) = closings rest := by
  rw [closings, List.countP_cons_of_neg (by simp [neutral]), closings]

theorem Matched.nil : Matched [] := by
  refine ⟨rfl, ?_⟩
  intro before inside
  rw [List.prefix_nil.mp inside]
  exact Nat.le_refl _

theorem Matched.append {first second : List Token} (left : Matched first)
    (right : Matched second) : Matched (first ++ second) := by
  refine ⟨by simp only [openings_append, closings_append, left.total, right.total], ?_⟩
  intro before inside
  rcases prefix_of_append inside with short | ⟨part, part_inside, rfl⟩
  · exact left.within before short
  · have below := right.within part part_inside
    have total := left.total
    simp only [openings_append, closings_append]
    omega

theorem Matched.single {token : Token} (opens : token.isOpening = false)
    (closes : token.isClosing = false) : Matched [token] := by
  have opened : openings [token] = 0 := openings_neutral [] opens
  have closed : closings [token] = 0 := closings_neutral [] closes
  refine ⟨by rw [opened, closed], ?_⟩
  intro before inside
  rcases List.prefix_cons_iff.mp inside with rfl | ⟨rest, rfl, short⟩
  · exact Nat.le_refl _
  · rw [List.prefix_nil.mp short, closed]
    exact Nat.zero_le _

theorem Matched.group {inside : List Token} (matched : Matched inside) (first last : Nat) :
    Matched (opening first :: inside ++ [closing last]) := by
  have total := matched.total
  refine ⟨by simp [total], ?_⟩
  intro before part
  rcases prefix_of_append part with short | ⟨tail, tail_part, rfl⟩
  · rcases List.prefix_cons_iff.mp short with rfl | ⟨rest, rfl, rest_part⟩
    · exact Nat.le_refl _
    · have below := matched.within rest rest_part
      rw [closings_opening, openings_opening]
      omega
  · have last_token : closings tail ≤ 1 := by
      obtain ⟨after, split⟩ := tail_part
      have count := congrArg closings split
      simp only [closings_append, closings_closing, closings_nil] at count
      omega
    simp only [List.cons_append, closings_opening, openings_opening, closings_append,
      openings_append]
    omega

/-- A row that never has more than `limit` parentheses open. -/
def Shallow (limit : Nat) (row : List Token) : Prop :=
  ∀ before, before <+: row → openings before ≤ closings before + limit

theorem Shallow.nil (limit : Nat) : Shallow limit [] := by
  intro before inside
  rw [List.prefix_nil.mp inside]
  exact Nat.zero_le _

theorem Shallow.mono {limit larger : Nat} {row : List Token} (shallow : Shallow limit row)
    (within : limit ≤ larger) : Shallow larger row := by
  intro before inside
  have below := shallow before inside
  omega

theorem Shallow.of_append {limit : Nat} {first second : List Token}
    (shallow : Shallow limit (first ++ second)) : Shallow limit first := by
  intro before inside
  apply shallow
  exact inside.trans (List.prefix_append _ _)

theorem Shallow.append {limit : Nat} {first second : List Token} (left : Shallow limit first)
    (matched : Matched first) (right : Shallow limit second) : Shallow limit (first ++ second) := by
  intro before inside
  rcases prefix_of_append inside with short | ⟨part, part_inside, rfl⟩
  · exact left before short
  · have total := matched.total
    have below := right part part_inside
    rw [openings_append, closings_append]
    omega

theorem Shallow.single (limit : Nat) {token : Token} (opens : token.isOpening = false) :
    Shallow limit [token] := by
  intro before inside
  have none : openings before ≤ openings [token] := inside.sublist.countP_le
  rw [openings_neutral [] opens, openings_nil] at none
  omega

theorem Shallow.group {limit : Nat} {inside : List Token} (shallow : Shallow limit inside)
    (matched : Matched inside) (first last : Nat) :
    Shallow (limit + 1) (opening first :: inside ++ [closing last]) := by
  intro before part
  rcases prefix_of_append part with short | ⟨tail, tail_part, rfl⟩
  · rcases List.prefix_cons_iff.mp short with rfl | ⟨rest, rfl, rest_part⟩
    · exact Nat.zero_le _
    · have below := shallow rest rest_part
      rw [openings_opening, closings_opening]
      omega
  · have total := matched.total
    have below := Shallow.single limit rfl tail tail_part
    rw [List.cons_append, openings_opening, closings_opening, openings_append, closings_append]
    omega

/-- What follows a matched row and a parenthesis has one level less. -/
theorem Shallow.inside_group {limit : Nat} {before inside after : List Token} {first : Nat}
    (shallow : Shallow limit (before ++ (opening first :: inside ++ after)))
    (matched : Matched before) : ∃ less, limit = less + 1 ∧ Shallow less inside := by
  have total := matched.total
  have within (part : List Token) (part_inside : part <+: inside) :
      openings part + 1 ≤ closings part + limit := by
    have below := shallow (before ++ opening first :: part) (by
      rw [List.prefix_append_right_inj, List.cons_append, List.prefix_cons_inj]
      exact part_inside.trans (List.prefix_append _ _))
    rw [openings_append, closings_append, openings_opening, closings_opening] at below
    omega
  have least := within [] List.nil_prefix
  rw [openings_nil, closings_nil] at least
  refine ⟨limit - 1, by omega, ?_⟩
  intro part part_inside
  have below := within part part_inside
  omega

/-- The last parenthesis that a row leaves open stands at `position`, after the row `around`. -/
def InnermostOpen (row around : List Token) (position : Nat) : Prop :=
  ∃ inside, row = around ++ opening position :: inside ∧ Matched inside

/-- Between two parentheses that are both left open last the first would be closed. -/
theorem not_matched_of_opening {gap inside : List Token} {position : Nat}
    (outer : Matched (gap ++ opening position :: inside)) : ¬ Matched inside := by
  intro inner
  have below := outer.within gap (List.prefix_append _ _)
  have outer_total := outer.total
  have inner_total := inner.total
  simp only [openings_append, closings_append, openings_opening, closings_opening] at outer_total
  omega

theorem Matched.not_innermostOpen {row : List Token} (matched : Matched row)
    (around : List Token) (position : Nat) : ¬ InnermostOpen row around position := by
  rintro ⟨inside, rfl, inner⟩
  exact not_matched_of_opening matched inner

theorem InnermostOpen.unique {row around around' : List Token} {position position' : Nat}
    (innermost : InnermostOpen row around position)
    (innermost' : InnermostOpen row around' position') :
    around = around' ∧ position = position' := by
  obtain ⟨inside, rfl, matched⟩ := innermost
  obtain ⟨inside', same, matched'⟩ := innermost'
  rcases places_cases same with ⟨before, place, -⟩ | ⟨gap, -, rfl⟩ | ⟨gap, -, rfl⟩
  · exact ⟨before, Token.opening.inj place⟩
  · exact absurd matched' (not_matched_of_opening matched)
  · exact absurd matched (not_matched_of_opening matched')

/-- A row that closes more than it opens has a first parenthesis that closes nothing. -/
theorem exists_closing (row : List Token) (more : openings row < closings row) :
    ∃ inside position after, row = inside ++ closing position :: after ∧ Matched inside := by
  induction size : row.length using Nat.strongRecOn generalizing row with
  | ind size ih =>
      cases row with
      | nil => cases more
      | cons token rest =>
          rw [List.length_cons] at size
          have neutral (opens : token.isOpening = false) (closes : token.isClosing = false) :
              ∃ inside position after,
                token :: rest = inside ++ closing position :: after ∧ Matched inside := by
            rw [openings_neutral rest opens, closings_neutral rest closes] at more
            obtain ⟨inside, position, after, rfl, matched⟩ :=
              ih rest.length (by omega) rest more rfl
            exact ⟨[token] ++ inside, position, after, rfl,
              (Matched.single opens closes).append matched⟩
          cases token with
          | closing position => exact ⟨[], position, rest, rfl, Matched.nil⟩
          | opening position =>
              -- The group is passed over as a whole, and what follows it closes more again.
              rw [openings_opening, closings_opening] at more
              obtain ⟨inside, last, after, rfl, matched⟩ :=
                ih rest.length (by omega) rest (by omega) rfl
              have total := matched.total
              simp only [openings_append, closings_append, openings_closing, closings_closing]
                at more
              simp only [List.length_append, List.length_cons] at size
              obtain ⟨next, last', after', rfl, matched'⟩ :=
                ih after.length (by omega) after (by omega) rfl
              exact ⟨(opening position :: inside ++ [closing last]) ++ next, last', after',
                by simp only [List.append_assoc, List.cons_append, List.nil_append],
                (matched.group position last).append matched'⟩
          | relation value doubled => exact neutral rfl rfl
          | comparison name start operator position literal => exact neutral rfl rfl
          | stray name start => exact neutral rfl rfl

/-- A row that opens more than it closes has an innermost parenthesis that it leaves open. -/
theorem exists_opening (row : List Token) (more : closings row < openings row) :
    ∃ around position, InnermostOpen row around position := by
  induction size : row.length using Nat.strongRecOn generalizing row with
  | ind size ih =>
      rcases List.eq_nil_or_concat row with rfl | ⟨rest, token, rfl⟩
      · cases more
      · rw [List.concat_eq_append] at more size ⊢
        rw [List.length_append, List.length_singleton] at size
        have neutral (opens : token.isOpening = false) (closes : token.isClosing = false) :
            ∃ around position, InnermostOpen (rest ++ [token]) around position := by
          have alone := Matched.single opens closes
          have total := alone.total
          rw [openings_append, closings_append] at more
          obtain ⟨around, position, inside, rfl, matched⟩ :=
            ih rest.length (by omega) rest (by omega) rfl
          exact ⟨around, position, inside ++ [token],
            by rw [List.append_assoc, List.cons_append], matched.append alone⟩
        cases token with
        | opening position => exact ⟨rest, position, [], rfl, Matched.nil⟩
        | closing last =>
            -- The group that ends here is passed over as a whole, from its end.
            simp only [openings_append, closings_append, openings_closing, closings_closing,
              openings_nil, closings_nil] at more
            obtain ⟨between, first, inside, rfl, matched⟩ :=
              ih rest.length (by omega) rest (by omega) rfl
            have total := matched.total
            simp only [openings_append, closings_append, openings_opening, closings_opening] at more
            simp only [List.length_append, List.length_cons] at size
            obtain ⟨around, position, inside', rfl, matched'⟩ :=
              ih between.length (by omega) between (by omega) rfl
            exact ⟨around, position, inside' ++ (opening first :: inside ++ [closing last]),
              by simp only [List.append_assoc, List.cons_append],
              matched'.append (matched.group first last)⟩
        | relation value doubled => exact neutral rfl rfl
        | comparison name start operator position literal => exact neutral rfl rfl
        | stray name start => exact neutral rfl rfl

theorem Matched.exists_opening {before after : List Token} {position : Nat}
    (matched : Matched (before ++ closing position :: after)) :
    ∃ around first, InnermostOpen before around first := by
  rw [List.append_cons] at matched
  have below := matched.within (before ++ [closing position]) (List.prefix_append _ _)
  simp only [closings_append, openings_append, closings_closing, openings_closing, closings_nil,
    openings_nil] at below
  exact Token.exists_opening before (by omega)

theorem Matched.exists_closing {before after : List Token} {position : Nat}
    (matched : Matched (before ++ opening position :: after)) :
    ∃ inside last rest, after = inside ++ closing last :: rest ∧ Matched inside := by
  have total := matched.total
  have below := matched.within before (List.prefix_append _ _)
  simp only [openings_append, closings_append, openings_opening, closings_opening] at total
  exact Token.exists_closing after (by omega)

end Token

end AdTargeting
