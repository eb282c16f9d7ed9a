import AdTargeting.Proofs.Condition.Acceptance
import AdTargeting.Proofs.Condition.ShortSpelling

set_option autoImplicit false

/-
Parsing the canonical text of a parsed condition gives the same tree, positions apart. The text
spells a row that the grammar derives, and the derivation follows the tree.
-/

namespace AdTargeting

namespace Token

/-- A text that, where no name has begun and something other than a literal follows, spells a part
of a row. -/
def SpellsPart (position : Nat) (text : List Char) (part : List Token) : Prop :=
  ∀ (rest : List Char) (row : List Token),
    (∀ c, rest.head? = some c → EndsLiteral c) →
      Spells .none (position + text.length) rest row →
        Spells .none position (text ++ rest) (part ++ row)

namespace SpellsPart

variable {position : Nat} {first second : List Char} {front back : List Token}

theorem nil (position : Nat) : SpellsPart position [] [] :=
  fun _ _ _ later => later

theorem append (left : SpellsPart position first front)
    (right : SpellsPart (position + first.length) second back)
    (boundary : ∀ c, second.head? = some c → EndsLiteral c) :
    SpellsPart position (first ++ second) (front ++ back) := by
  intro rest row follows later
  rw [List.append_assoc, List.append_assoc]
  apply left
  · intro c head
    cases second with
    | nil => exact follows c head
    | cons next second => exact boundary c head
  · apply right _ _ follows
    rw [List.length_append, ← Nat.add_assoc] at later
    exact later

theorem connector (relation : Relation) (after : SpellsPart (position + 4) second back) :
    SpellsPart position (Expression.connectorWith Relation.marks (some relation) ++ second)
      (.relation relation true :: back) := by
  intro rest row follows later
  have text : Expression.connectorWith Relation.marks (some relation) ++ second ++ rest =
      ' ' :: relation.mark :: relation.mark :: ' ' :: (second ++ rest) := rfl
  rw [text]
  apply Spells.blank (by decide)
  apply Spells.doubled relation
  apply Spells.blank (by decide)
  apply after rest row follows
  have size : (Expression.connectorWith Relation.marks (some relation)).length = 4 := rfl
  rw [List.length_append, size, ← Nat.add_assoc] at later
  exact later

theorem group (inside : SpellsPart (position + 1) first front) :
    SpellsPart position ('(' :: first ++ [')'])
      (.opening position :: front ++ [.closing (position + 1 + first.length)]) := by
  intro rest row follows later
  have closed : Spells .none (position + 1 + first.length) (')' :: rest)
      (.closing (position + 1 + first.length) :: row) := by
    apply Spells.closing
    simp only [List.length_append, List.length_cons, List.length_nil] at later
    rw [show position + 1 + first.length + 1 = position + (first.length + 1 + (0 + 1)) by omega]
    exact later
  have boundary (c : Char) (head : (')' :: rest).head? = some c) : EndsLiteral c := by
    cases head
    decide
  have opened := inside (')' :: rest) _ boundary closed
  simp only [List.cons_append, List.append_assoc, List.nil_append]
  exact .opening opened

end SpellsPart

end Token

section Names

variable {chars : List Char} (letters : ∀ c ∈ chars, inName c = true)

include letters

theorem Token.spells_further {start position : Nat} {first : Char} {read rest : List Char}
    {row : List Token}
    (later : Spells (.begun start first (read ++ chars)) (position + chars.length) rest row) :
    Spells (.begun start first read) position (chars ++ rest) row := by
  induction chars generalizing read position with
  | nil => rwa [List.append_nil] at later
  | cons c chars ih =>
      rw [List.append_cons, List.length_cons, Nat.add_comm chars.length, ← Nat.add_assoc] at later
      exact .further (letters c List.mem_cons_self)
        (ih (fun other member => letters other (.tail c member)) later)

/-- Letters alone are a name, or no name if there are none. -/
theorem Token.exists_name (position : Nat) :
    ∃ name : NamePart, name.text = String.ofList chars ∧
      ∀ rest row, Spells name (position + chars.length) rest row →
        Spells .none position (chars ++ rest) row := by
  cases chars with
  | nil => exact ⟨.none, rfl, fun rest row later => later⟩
  | cons c chars =>
      refine ⟨.begun position c chars, rfl, ?_⟩
      intro rest row later
      rw [List.length_cons, Nat.add_comm chars.length, ← Nat.add_assoc] at later
      exact .first (letters c List.mem_cons_self)
        (spells_further (fun other member => letters other (.tail c member)) later)

end Names

/-- A name, a symbol and a literal with nothing between them spell a comparison. -/
theorem Token.spells_comparison {name : String} {operator : Operator} {literal : List Char}
    (letters : ∀ c ∈ name.toList, inName c = true) (nonempty : literal ≠ [])
    (inside : ∀ c ∈ literal, inLiteral c = true)
    (longest : operator.Extensible → literal.head? ≠ some '=') (position : Nat) :
    ∃ start place, SpellsPart position (name.toList ++ operator.symbol.toList ++ literal)
      [.comparison name start operator place literal] := by
  obtain ⟨read, text, spells⟩ := exists_name letters position
  obtain rfl : read.text = name := text.trans (String.ofList_toList)
  refine ⟨read.beginning (position + read.text.toList.length),
    position + read.text.toList.length, ?_⟩
  intro rest row follows later
  rw [List.append_assoc, List.append_assoc]
  apply spells
  refine .comparison operator literal ?_ (fun c member => inLiteral_iff.mp (inside c member))
    follows ?_
  · intro extensible first
    obtain ⟨c, tail, rfl⟩ := List.exists_cons_of_ne_nil nonempty
    exact longest extensible first
  · rw [List.length_append, List.length_append, ← Nat.add_assoc, ← Nat.add_assoc] at later
    exact later

variable {options : Options}

theorem Comparison.Printable.spells {comparison : Comparison}
    (printable : comparison.Printable options) (position : Nat) :
    ∃ start place, Token.SpellsPart position comparison.chars
      [.comparison comparison.name start comparison.operator place comparison.literal.chars] :=
  Token.spells_comparison printable.name printable.nonempty printable.inside printable.longest
    position

namespace Expression

theorem laterChars_boundary (word : Relation → List Char) (terms : List Term) (c : Char)
    (first : (laterCharsWith word terms).head? = some c) : EndsLiteral c := by
  match terms with
  | [] => cases first
  | ⟨none, _⟩ :: later =>
      cases first
      decide
  | ⟨some _, _⟩ :: later =>
      cases first
      decide

mutual

/-- A printed term spells a part of a row that says the same term. -/
theorem exists_term (expression : Expression) (printable : expression.Printable options)
    (position : Nat) :
    ∃ part again, Token.SpellsPart position (charsWith Relation.marks expression) part ∧
      (∀ {row terms read joined}, Content options row terms read → Joins terms read joined →
        Content options (row ++ part) (terms ++ [⟨joined, again⟩]) none) ∧
      again.withoutPositions = expression.withoutPositions := by
  match expression with
  | .compare comparison =>
      obtain ⟨start, place, spells⟩ := Comparison.Printable.spells printable position
      refine ⟨_, .compare { comparison with position := place }, spells, ?_, rfl⟩
      intro row terms read joined earlier joins
      exact earlier.comparison joins comparison.name start comparison.operator place
        printable.nonempty printable.classified
  | .scope terms =>
      obtain ⟨part, again, spells, content, same⟩ := exists_scope terms printable (position + 1)
      refine ⟨_, .scope again, spells.group, ?_, ?_⟩
      · intro row before read joined earlier joins
        exact earlier.group content joins _ _
      · rw [withoutPositions, same, withoutPositions]

theorem exists_scope (terms : List Term) (printable : (Expression.scope terms).Printable options)
    (position : Nat) :
    ∃ part again, Token.SpellsPart position (scopeCharsWith Relation.marks terms) part ∧
      Content options part again none ∧
      termsWithoutPositions again = termsWithoutPositions terms := by
  match terms with
  | [] => exact ⟨[], [], .nil position, .empty, rfl⟩
  | ⟨relation, expression⟩ :: later =>
      obtain ⟨rfl, first_printable, later_printable⟩ := printable
      obtain ⟨front, first, spells, join, same⟩ :=
        exists_term expression first_printable position
      obtain ⟨back, others, later_spells, grow, later_same⟩ :=
        exists_later later later_printable _
      have content := join .empty (.first none)
      refine ⟨front ++ back, ⟨none, first⟩ :: others,
        spells.append later_spells (laterChars_boundary _ later),
        grow (List.cons_ne_nil _ _) content, ?_⟩
      rw [termsWithoutPositions, same, later_same, termsWithoutPositions]

theorem exists_later (terms : List Term) (printable : PrintableLater options terms)
    (position : Nat) :
    ∃ part again, Token.SpellsPart position (laterCharsWith Relation.marks terms) part ∧
      (∀ {row before}, before ≠ [] → Content options row before none →
        Content options (row ++ part) (before ++ again) none) ∧
      termsWithoutPositions again = termsWithoutPositions terms := by
  match terms with
  | [] =>
      refine ⟨[], [], .nil position, ?_, rfl⟩
      intro row before _ content
      rw [List.append_nil, List.append_nil]
      exact content
  | ⟨none, _⟩ :: later => exact absurd rfl printable.1
  | ⟨some relation, expression⟩ :: later =>
      obtain ⟨-, first_printable, later_printable⟩ := printable
      obtain ⟨front, first, spells, join, same⟩ :=
        exists_term expression first_printable (position + 4)
      obtain ⟨back, others, later_spells, grow, later_same⟩ :=
        exists_later later later_printable _
      refine ⟨.relation relation true :: (front ++ back), ⟨some relation, first⟩ :: others, ?_, ?_,
        ?_⟩
      · rw [laterCharsWith, List.append_assoc]
        exact (spells.append later_spells (laterChars_boundary _ later)).connector relation
      · intro row before nonempty content
        have joined := join (content.relation relation true) (.later relation nonempty)
        have grown := grow (List.append_ne_nil_of_right_ne_nil before (List.cons_ne_nil _ _)) joined
        simp only [List.append_assoc, List.cons_append, List.nil_append] at grown
        exact grown
      · rw [termsWithoutPositions, same, later_same, termsWithoutPositions]

end

end Expression

theorem parse_of_content {condition : String} {row : List Token} {terms : List Term}
    {read : Option Relation} (spelled : Token.Spells .none 0 (normalize condition).toList row)
    (content : Content options row terms read)
    (fits : Expression.termDepth terms ≤ options.maxDepth) :
    (parse options condition).result = .ok (.scope terms) := by
  have reached := content.steps content.shallow [] fits
  rw [parse_result options spelled, Progress.start, reached]
  rfl

theorem content_of_parse {condition : String} {tree : Expression}
    (parsed : (parse options condition).result = .ok tree) :
    ∃ row terms read, Token.Spells .none 0 (normalize condition).toList row ∧
      Content options row terms read ∧ tree = .scope terms ∧
      Expression.termDepth terms ≤ options.maxDepth := by
  have spelled := Token.spells_scan (normalize condition).toList
  rcases parse_outcome options spelled with
    ⟨reason, refused, -⟩ | ⟨terms, read, parsed', content, faultless⟩
  · rw [parsed] at refused
    cases refused
  · rw [parsed] at parsed'
    cases parsed'
    exact ⟨_, terms, read, spelled, content, rfl,
      content.termDepth_le options.maxDepth faultless.shallow⟩

/-- The canonical text of a tree that can be printed parses to that tree, positions apart. -/
theorem parse_scopeChars {terms : List Term}
    (printable : (Expression.scope terms).Printable options)
    (fits : Expression.termDepth terms ≤ options.maxDepth) :
    ∃ again, (parse options (Expression.scope terms).rootText).result = .ok again ∧
      again.withoutPositions = (Expression.scope terms).withoutPositions := by
  obtain ⟨row, again, spells, content, same⟩ := Expression.exists_scope terms printable 0
  have spelled : Token.Spells .none 0 (normalize (Expression.scope terms).rootText).toList row := by
    rw [normalize, Expression.rootText, Expression.rootChars, String.toList_ofList,
      String.toList_ofList, shortSpelling_scopeChars printable]
    have ended (c : Char) (first : [].head? = some c) : EndsLiteral c := by
      cases first
    have whole := spells [] [] ended (.finish .none _)
    rw [List.append_nil, List.append_nil] at whole
    exact whole
  have depth : Expression.termDepth again = Expression.termDepth terms := by
    rw [← Expression.termDepth_withoutPositions, same, Expression.termDepth_withoutPositions]
  refine ⟨.scope again, parse_of_content spelled content ?_, ?_⟩
  · rw [depth]
    exact fits
  · rw [Expression.withoutPositions, same, Expression.withoutPositions]

/-- What parsing gives can be printed, and is not nested deeper than allowed. -/
theorem printable_of_parse {condition : String} {tree : Expression}
    (parsed : (parse options condition).result = .ok tree) :
    ∃ terms, tree = .scope terms ∧ (Expression.scope terms).Printable options ∧
      Expression.termDepth terms ≤ options.maxDepth := by
  obtain ⟨row, terms, read, spelled, content, rfl, fits⟩ := content_of_parse parsed
  exact ⟨terms, rfl, content.printable (spelled.lexical nofun), fits⟩

/-- The canonical text of a parsed condition parses to the same tree, positions apart. It is its own
canonical text, so parsing it once more changes nothing. -/
theorem parse_rootText {condition : String} {tree : Expression}
    (parsed : (parse options condition).result = .ok tree) :
    ∃ again, (parse options tree.rootText).result = .ok again ∧
      again.withoutPositions = tree.withoutPositions ∧ again.rootText = tree.rootText ∧
      (parse options again.rootText).result = .ok again := by
  obtain ⟨terms, rfl, printable, fits⟩ := printable_of_parse parsed
  obtain ⟨again, reparsed, same⟩ := parse_scopeChars printable fits
  have text := Expression.rootText_eq same
  exact ⟨again, reparsed, same, text, text.symm ▸ reparsed⟩

/-- Names and values spelled like relations, rewritten numbers and a name that is not used. -/
theorem parse_rootText_keywords :
    ∃ tree, (parse {} "and = 1e3 or (x<[0.5-2.] && or=and,or) stray").result = .ok tree ∧
      tree.rootText = "and=1000 or (x<[0.5-2] and or=and,or)" ∧
      ∃ again, (parse {} tree.rootText).result = .ok again ∧
        again.withoutPositions = tree.withoutPositions ∧ again.rootText = tree.rootText ∧
        (parse {} again.rootText).result = .ok again := by
  have printed : (parse {} "and = 1e3 or (x<[0.5-2.] && or=and,or) stray").result.toOption.map
      Expression.rootText = some "and=1000 or (x<[0.5-2] and or=and,or)" := by
    decide +kernel
  cases parsed : (parse {} "and = 1e3 or (x<[0.5-2.] && or=and,or) stray").result with
  | error reason =>
      rw [parsed] at printed
      cases printed
  | ok tree =>
      rw [parsed] at printed
      exact ⟨tree, rfl, Option.some.inj printed, parse_rootText parsed⟩

end AdTargeting
