import AdTargeting.Condition.Token
import AdTargeting.Proofs.Text.Parts

set_option autoImplicit false

/-
How a text spells a row of tokens, rule by rule. Scanning finds the one row that a text spells.
-/

namespace AdTargeting

/-- The character a relation is written with, once or twice. -/
def Relation.mark : Relation → Char
  | and => '&'
  | or => '|'

def delimiters : List Char := ['(', ')', '&', '|', '<', '>', '=']

/-- Names are made of all other characters that are not blank. -/
def inName (c : Char) : Bool := !isBlank c && !delimiters.contains c

theorem inName_iff {c : Char} : inName c = true ↔ isBlank c = false ∧ c ∉ delimiters := by
  simp only [inName, Bool.and_eq_true, Bool.not_eq_true', List.contains_eq_mem,
    decide_eq_false_iff_not]

/-- What a literal does not run across. -/
def EndsLiteral (c : Char) : Prop := isBlank c = true ∨ c = ')'

instance : DecidablePred EndsLiteral := fun c => inferInstanceAs (Decidable (_ ∨ c = ')'))

theorem inLiteral_iff {c : Char} : inLiteral c = true ↔ ¬ EndsLiteral c := by
  simp only [inLiteral, EndsLiteral, Bool.and_eq_true, Bool.not_eq_true', bne_iff_ne, ne_eq, not_or,
    Bool.not_eq_true]

theorem inLiteral_eq_false_iff {c : Char} : inLiteral c = false ↔ EndsLiteral c := by
  rw [← Bool.not_eq_true, inLiteral_iff, Classical.not_not]

section Runs

variable {literal rest : List Char} (inside : ∀ c ∈ literal, ¬ EndsLiteral c)
  (boundary : ∀ c, rest.head? = some c → EndsLiteral c)

include inside boundary

theorem takeWhile_literal : (literal ++ rest).takeWhile inLiteral = literal :=
  takeWhile_run (fun c member => inLiteral_iff.mpr (inside c member))
    fun c next => inLiteral_eq_false_iff.mpr (boundary c next)

theorem dropWhile_literal : (literal ++ rest).dropWhile inLiteral = rest :=
  dropWhile_run (fun c member => inLiteral_iff.mpr (inside c member))
    fun c next => inLiteral_eq_false_iff.mpr (boundary c next)

end Runs

theorem not_mem_delimiters_of_blank {c : Char} (space : isBlank c = true) : c ∉ delimiters := by
  intro member
  have visible : delimiters.all (fun c => !isBlank c) = true := rfl
  have absent := List.all_eq_true.mp visible c member
  rw [space] at absent
  cases absent

/-- Operators that become another one when an equality sign follows. -/
def Operator.Extensible (operator : Operator) : Prop :=
  operator = .less ∨ operator = .greater

namespace Operator

/-- A symbol is recognized when what follows does not make it longer. -/
theorem symbol_starts (operator : Operator) (after : List Char)
    (longest : operator.Extensible → after.head? ≠ some '=') :
    ∃ c tail, operator.symbol.toList ++ after = c :: tail ∧ startingWith c tail = some operator ∧
      Relation.startingWith c = none ∧ tail.drop (operator.width - 1) = after := by
  cases operator with
  | equal => exact ⟨'=', after, rfl, rfl, rfl, rfl⟩
  | less => exact ⟨'<', after, rfl, congrArg some (if_neg (longest (Or.inl rfl))), rfl, rfl⟩
  | greater => exact ⟨'>', after, rfl, congrArg some (if_neg (longest (Or.inr rfl))), rfl, rfl⟩
  | lessEqual => exact ⟨'<', '=' :: after, rfl, rfl, rfl, rfl⟩
  | greaterEqual => exact ⟨'>', '=' :: after, rfl, rfl, rfl, rfl⟩

theorem length_symbol (operator : Operator) : operator.symbol.toList.length = operator.width := by
  cases operator <;> rfl

theorem exists_sign (operator : Operator) :
    ∃ c ∈ operator.symbol.toList, c = '=' ∨ c = '<' ∨ c = '>' := by
  cases operator with
  | equal => exact ⟨'=', by decide, by decide⟩
  | less => exact ⟨'<', by decide, by decide⟩
  | greater => exact ⟨'>', by decide, by decide⟩
  | lessEqual => exact ⟨'<', by decide, by decide⟩
  | greaterEqual => exact ⟨'>', by decide, by decide⟩

/-- Of two symbols that begin alike the longer one is taken where it stands. -/
theorem longer_or_alone {tail : List Char} {longer alone operator : Operator}
    (chosen : (if tail.head? = some '=' then longer else alone) = operator) :
    (operator = longer ∧ ∃ rest, tail = '=' :: rest) ∨
      operator = alone ∧ tail.head? ≠ some '=' := by
  by_cases next : tail.head? = some '='
  · rw [if_pos next] at chosen
    exact Or.inl ⟨chosen.symm, List.head?_eq_some_iff.mp next⟩
  · rw [if_neg next] at chosen
    exact Or.inr ⟨chosen.symm, next⟩

theorem symbol_of_starting {c : Char} {tail : List Char} {operator : Operator}
    (starts : startingWith c tail = some operator) :
    c :: tail = operator.symbol.toList ++ tail.drop (operator.width - 1) ∧
      (operator.Extensible → (tail.drop (operator.width - 1)).head? ≠ some '=') := by
  unfold startingWith at starts
  by_cases equal : c = '='
  · rw [if_pos equal] at starts
    cases starts
    rw [equal]
    exact ⟨rfl, by simp [Extensible]⟩
  rw [if_neg equal] at starts
  by_cases less : c = '<'
  · rw [if_pos less] at starts
    rw [less]
    rcases longer_or_alone (Option.some.inj starts) with ⟨rfl, rest, rfl⟩ | ⟨rfl, alone⟩
    · exact ⟨rfl, by simp [Extensible]⟩
    · exact ⟨rfl, fun _ => alone⟩
  rw [if_neg less] at starts
  by_cases greater : c = '>'
  · rw [if_pos greater] at starts
    rw [greater]
    rcases longer_or_alone (Option.some.inj starts) with ⟨rfl, rest, rfl⟩ | ⟨rfl, alone⟩
    · exact ⟨rfl, by simp [Extensible]⟩
    · exact ⟨rfl, fun _ => alone⟩
  · rw [if_neg greater] at starts
    cases starts

end Operator

/-- What has been read of a name: its characters, the first of which stands at `start`. -/
inductive NamePart where
  | none
  | begun (start : Nat) (first : Char) (later : List Char)

namespace NamePart

def text : NamePart → String
  | none => ""
  | begun _ first later => String.ofList (first :: later)

/-- The token of a name that no comparison takes. -/
def unused : NamePart → List Token
  | none => []
  | begun start first later => [.stray (String.ofList (first :: later)) start]

/-- Where a comparison begins whose operator stands at `position`. -/
def beginning (position : Nat) : NamePart → Nat
  | none => position
  | begun start _ _ => start

def pending : NamePart → PendingName
  | none => .none
  | begun start first later => ⟨String.ofList (first :: later), start⟩

theorem ofList_cons_ne_empty (first : Char) (later : List Char) :
    String.ofList (first :: later) ≠ "" := by
  rw [ne_eq, ← String.toList_inj, String.toList_ofList]
  exact List.cons_ne_nil first later

theorem pending_text (name : NamePart) : name.pending.text = name.text := by
  cases name <;> rfl

theorem pending_stray (name : NamePart) : name.pending.stray = name.unused := by
  cases name with
  | none => rfl
  | begun start first later => exact if_neg (ofList_cons_ne_empty first later)

theorem pending_startOr (name : NamePart) (position : Nat) :
    name.pending.startOr position = name.beginning position := by
  cases name with
  | none => rfl
  | begun start first later => exact if_neg (ofList_cons_ne_empty first later)

theorem pending_none_push (c : Char) (position : Nat) :
    none.pending.push c position = (begun position c []).pending := rfl

theorem toList_text (start : Nat) (first : Char) (later : List Char) :
    (begun start first later).text.toList = first :: later := String.toList_ofList

theorem text_further (start : Nat) (first : Char) (later : List Char) (c : Char) :
    (begun start first (later ++ [c])).text = (begun start first later).text.push c := by
  rw [← String.toList_inj, String.toList_push, toList_text, toList_text, List.cons_append]

theorem pending_begun_push (start : Nat) (first : Char) (later : List Char) (c : Char)
    (position : Nat) :
    (begun start first later).pending.push c position =
      (begun start first (later ++ [c])).pending := by
  have longer := text_further start first later c
  simp only [text] at longer
  simp only [pending, PendingName.push, longer, ofList_cons_ne_empty, ↓reduceIte]

variable {property : Token → Prop}

/-- What holds of every name that is not used holds of all that a name leaves. -/
theorem forall_unused (ignored : ∀ text start, property (.stray text start)) (name : NamePart) :
    ∀ token ∈ name.unused, property token := by
  cases name with
  | none => exact fun _ member => nomatch member
  | begun start first later => exact List.forall_mem_singleton.mpr (ignored _ start)

theorem forall_unused_cons (ignored : ∀ text start, property (.stray text start))
    (name : NamePart) {first : Token} {row : List Token} (here : property first)
    (later : ∀ token ∈ row, property token) :
    ∀ token ∈ name.unused ++ first :: row, property token :=
  List.forall_mem_append.mpr
    ⟨forall_unused ignored name, List.forall_mem_cons.mpr ⟨here, later⟩⟩

end NamePart

namespace Token

/-- A text that begins at `position`, after a part of a name, spells a row of tokens. Relations and
operators are as long as they can be, and so are literals. Blanks do not end a name. -/
inductive Spells : NamePart → Nat → List Char → List Token → Prop
  | finish (name : NamePart) (position : Nat) : Spells name position [] name.unused
  | opening {name : NamePart} {position : Nat} {rest : List Char} {row : List Token}
      (later : Spells .none (position + 1) rest row) :
      Spells name position ('(' :: rest) (name.unused ++ opening position :: row)
  | closing {name : NamePart} {position : Nat} {rest : List Char} {row : List Token}
      (later : Spells .none (position + 1) rest row) :
      Spells name position (')' :: rest) (name.unused ++ closing position :: row)
  | single {name : NamePart} {position : Nat} {rest : List Char} {row : List Token}
      (value : Relation) (alone : rest.head? ≠ some value.mark)
      (later : Spells .none (position + 1) rest row) :
      Spells name position (value.mark :: rest) (name.unused ++ relation value false :: row)
  | doubled {name : NamePart} {position : Nat} {rest : List Char} {row : List Token}
      (value : Relation) (later : Spells .none (position + 2) rest row) :
      Spells name position (value.mark :: value.mark :: rest)
        (name.unused ++ relation value true :: row)
  | comparison {name : NamePart} {position : Nat} {rest : List Char} {row : List Token}
      (operator : Operator) (literal : List Char)
      (longest : operator.Extensible → (literal ++ rest).head? ≠ some '=')
      (inside : ∀ c ∈ literal, ¬ EndsLiteral c)
      (boundary : ∀ c, rest.head? = some c → EndsLiteral c)
      (later : Spells .none (position + operator.symbol.toList.length + literal.length) rest row) :
      Spells name position (operator.symbol.toList ++ (literal ++ rest))
        (comparison name.text (name.beginning position) operator position literal :: row)
  | blank {name : NamePart} {position : Nat} {c : Char} {rest : List Char} {row : List Token}
      (space : isBlank c = true) (later : Spells name (position + 1) rest row) :
      Spells name position (c :: rest) row
  | first {position : Nat} {c : Char} {rest : List Char} {row : List Token}
      (inside : inName c = true) (later : Spells (.begun position c []) (position + 1) rest row) :
      Spells .none position (c :: rest) row
  | further {start : Nat} {begins : Char} {read : List Char} {position : Nat} {c : Char}
      {rest : List Char} {row : List Token} (inside : inName c = true)
      (later : Spells (.begun start begins (read ++ [c])) (position + 1) rest row) :
      Spells (.begun start begins read) position (c :: rest) row

section Scanning

variable (name : PendingName) (position : Nat) (rest : List Char)

theorem scanFrom_nil : scanFrom name position [] = name.stray := by
  rw [scanFrom]

theorem scanFrom_opening : scanFrom name position ('(' :: rest) =
    name.stray ++ opening position :: scanFrom .none (position + 1) rest := by
  rw [scanFrom]
  simp only [↓reduceIte]

theorem scanFrom_closing : scanFrom name position (')' :: rest) =
    name.stray ++ closing position :: scanFrom .none (position + 1) rest := by
  rw [scanFrom]
  simp only [Char.reduceEq, ↓reduceIte]

theorem scanFrom_single (value : Relation) (alone : rest.head? ≠ some value.mark) :
    scanFrom name position (value.mark :: rest) =
      name.stray ++ relation value false :: scanFrom .none (position + 1) rest := by
  rw [scanFrom]
  cases value <;>
    simp only [Relation.mark] at alone ⊢ <;>
    simp only [Relation.startingWith, Char.reduceEq, ↓reduceIte, alone]

theorem scanFrom_doubled (value : Relation) :
    scanFrom name position (value.mark :: value.mark :: rest) =
      name.stray ++ relation value true :: scanFrom .none (position + 2) rest := by
  rw [scanFrom]
  cases value <;>
    simp only [Relation.mark, Relation.startingWith, Char.reduceEq, ↓reduceIte, List.head?_cons,
      List.drop_succ_cons, List.drop_zero]

theorem scanFrom_comparison (operator : Operator) (literal : List Char)
    (longest : operator.Extensible → (literal ++ rest).head? ≠ some '=')
    (inside : ∀ c ∈ literal, ¬ EndsLiteral c)
    (boundary : ∀ c, rest.head? = some c → EndsLiteral c) :
    scanFrom name position (operator.symbol.toList ++ (literal ++ rest)) =
      comparison name.text (name.startOr position) operator position literal ::
        scanFrom .none (position + operator.symbol.toList.length + literal.length) rest := by
  obtain ⟨c, tail, text, starts, other, after⟩ := operator.symbol_starts (literal ++ rest) longest
  have opening : c ≠ '(' := by
    rintro rfl
    cases starts
  have closing : c ≠ ')' := by
    rintro rfl
    cases starts
  rw [text, scanFrom, operator.length_symbol]
  simp only [opening, closing, other, starts, after, takeWhile_literal inside boundary,
    dropWhile_literal inside boundary, ↓reduceIte]

theorem scanFrom_other (c : Char) (ordinary : c ∉ delimiters) :
    scanFrom name position (c :: rest) =
      if isBlank c then scanFrom name (position + 1) rest
      else scanFrom (name.push c position) (position + 1) rest := by
  simp only [delimiters, List.mem_cons, List.not_mem_nil, or_false, not_or] at ordinary
  obtain ⟨opening, closing, and, or, less, greater, equal⟩ := ordinary
  rw [scanFrom]
  simp only [opening, closing, Relation.startingWith, and, or, Operator.startingWith, less, greater,
    equal, ↓reduceIte]

theorem scanFrom_blank (c : Char) (space : isBlank c = true) :
    scanFrom name position (c :: rest) = scanFrom name (position + 1) rest := by
  rw [scanFrom_other name position rest c (not_mem_delimiters_of_blank space), if_pos space]

theorem scanFrom_letter (c : Char) (inside : inName c = true) :
    scanFrom name position (c :: rest) =
      scanFrom (name.push c position) (position + 1) rest := by
  obtain ⟨visible, ordinary⟩ := inName_iff.mp inside
  rw [scanFrom_other name position rest c ordinary, visible]
  rfl

end Scanning

theorem exists_comparison {c : Char} {rest : List Char} {operator : Operator}
    (starts : Operator.startingWith c rest = some operator) :
    ∃ literal after, c :: rest = operator.symbol.toList ++ (literal ++ after) ∧
      (operator.Extensible → (literal ++ after).head? ≠ some '=') ∧
      (∀ c ∈ literal, ¬ EndsLiteral c) ∧
      (∀ c, after.head? = some c → EndsLiteral c) ∧ after.length ≤ rest.length := by
  obtain ⟨text, longest⟩ := operator.symbol_of_starting starts
  generalize tail_eq : rest.drop (operator.width - 1) = tail at text longest
  have split : tail.takeWhile inLiteral ++ tail.dropWhile inLiteral = tail :=
    List.takeWhile_append_dropWhile
  refine ⟨tail.takeWhile inLiteral, tail.dropWhile inLiteral, by rw [split, text],
    by rwa [split], fun c member => inLiteral_iff.mp (mem_takeWhile_run member),
    fun c next => inLiteral_eq_false_iff.mp (head?_dropWhile_run tail c next), ?_⟩
  calc
    (tail.dropWhile inLiteral).length ≤ tail.length := (List.dropWhile_sublist _).length_le
    _ ≤ rest.length := by
      rw [← tail_eq, List.length_drop]
      omega

/-- Every text spells the row that scanning finds. -/
theorem spells_scanFrom (name : NamePart) (position : Nat) (text : List Char) :
    Spells name position text (scanFrom name.pending position text) := by
  induction size : text.length using Nat.strongRecOn generalizing name position text with
  | ind size ih =>
      cases text with
      | nil =>
          rw [scanFrom_nil, name.pending_stray]
          exact .finish name position
      | cons c rest =>
          rw [List.length_cons] at size
          have next (name : NamePart) (position : Nat) :
              Spells name position rest (scanFrom name.pending position rest) :=
            ih rest.length (by omega) name position rest rfl
          by_cases opens : c = '('
          · rw [opens, scanFrom_opening, name.pending_stray]
            exact .opening (next .none _)
          by_cases closes : c = ')'
          · rw [closes, scanFrom_closing, name.pending_stray]
            exact .closing (next .none _)
          by_cases related : ∃ value : Relation, c = value.mark
          · obtain ⟨value, rfl⟩ := related
            by_cases alone : rest.head? = some value.mark
            · obtain ⟨after, rfl⟩ := List.head?_eq_some_iff.mp alone
              rw [List.length_cons] at size
              rw [scanFrom_doubled, name.pending_stray]
              exact .doubled value (ih after.length (by omega) .none _ after rfl)
            · rw [scanFrom_single _ _ _ value alone, name.pending_stray]
              exact .single value alone (next .none _)
          cases starts : Operator.startingWith c rest with
          | some operator =>
              obtain ⟨literal, after, text, longest, inside, boundary, shorter⟩ :=
                exists_comparison starts
              rw [text, scanFrom_comparison _ _ _ operator literal longest inside boundary,
                name.pending_text, name.pending_startOr]
              exact .comparison operator literal longest inside boundary
                (ih after.length (by omega) .none _ after rfl)
          | none =>
              have ordinary : c ∉ delimiters := by
                intro member
                simp only [delimiters, List.mem_cons, List.not_mem_nil, or_false] at member
                rcases member with same | same | same | same | same | same | same
                · exact opens same
                · exact closes same
                · exact related ⟨.and, same⟩
                · exact related ⟨.or, same⟩
                all_goals
                  rw [same] at starts
                  cases starts
              by_cases space : isBlank c = true
              · rw [scanFrom_blank _ _ _ c space]
                exact .blank space (next _ _)
              · have inside : inName c = true := by simp [inName, space, ordinary]
                rw [scanFrom_letter _ _ _ c inside]
                cases name with
                | none => exact .first inside (next (.begun position c []) _)
                | begun start begins read =>
                    rw [NamePart.pending_begun_push]
                    exact .further inside (next _ _)

/-- A text spells no other row. -/
theorem scanFrom_of_spells {name : NamePart} {position : Nat} {text : List Char}
    {row : List Token} (spelled : Spells name position text row) :
    scanFrom name.pending position text = row := by
  induction spelled with
  | finish name position => rw [scanFrom_nil, name.pending_stray]
  | @opening name _ _ _ _ ih => rw [scanFrom_opening, name.pending_stray, ← ih]; rfl
  | @closing name _ _ _ _ ih => rw [scanFrom_closing, name.pending_stray, ← ih]; rfl
  | @single name _ _ _ value alone _ ih =>
      rw [scanFrom_single _ _ _ value alone, name.pending_stray, ← ih]; rfl
  | @doubled name _ _ _ value _ ih =>
      rw [scanFrom_doubled, name.pending_stray, ← ih]; rfl
  | @comparison name _ _ _ operator literal longest inside boundary _ ih =>
      rw [scanFrom_comparison _ _ _ operator literal longest inside boundary, name.pending_text,
        name.pending_startOr, ← ih]
      rfl
  | blank space _ ih => rw [scanFrom_blank _ _ _ _ space, ih]
  | first inside _ ih => rw [scanFrom_letter _ _ _ _ inside, NamePart.pending_none_push, ih]
  | further inside _ ih => rw [scanFrom_letter _ _ _ _ inside, NamePart.pending_begun_push, ih]

theorem spells_scan (text : List Char) : Spells .none 0 text (scan text) :=
  spells_scanFrom .none 0 text

theorem spells_iff {text : List Char} {row : List Token} :
    Spells .none 0 text row ↔ row = scan text :=
  ⟨fun spelled => (scanFrom_of_spells spelled).symm, fun same => same ▸ spells_scan text⟩

end Token

end AdTargeting
