import AdTargeting.Proofs.Condition.Lexeme
import Mathlib.Data.List.Pairwise

set_option autoImplicit false

/-
Tokens as stretches of a text. The stretches follow one another without touching the same character
twice, and between them are only blanks, so each character that is not blank is in one token.
-/

namespace AdTargeting

/-- The characters that end a name without using it. -/
def terminators : List Char := ['(', ')', '&', '|']

/-- A stretch of a text spells a name: it starts with the first letter, and its blanks are passed
over. -/
structure NameIn (stretch : List Char) (name : String) : Prop where
  first : ∀ c, stretch.head? = some c → isBlank c = false
  inside : ∀ c ∈ stretch, isBlank c = true ∨ inName c = true
  letters : stretch.filter (fun c => !isBlank c) = name.toList

/-- A token is written as a stretch that begins at `start` and has `after` behind it. A comparison
is its name, its operator and its literal; a name that is not used reaches to what ends it. -/
def Token.WrittenAs (start : Nat) (stretch after : List Char) : Token → Prop
  | opening position => position = start ∧ stretch = ['(']
  | closing position => position = start ∧ stretch = [')']
  | relation value false => stretch = [value.mark] ∧ after.head? ≠ some value.mark
  | relation value true => stretch = [value.mark, value.mark]
  | comparison name first operator position literal =>
      ∃ gap, stretch = gap ++ (operator.symbol.toList ++ literal) ∧ NameIn gap name ∧
        first = start ∧ position = start + gap.length ∧
        (operator.Extensible → (literal ++ after).head? ≠ some '=') ∧
        (∀ c ∈ literal, ¬ EndsLiteral c) ∧ ∀ c, after.head? = some c → EndsLiteral c
  | stray name first =>
      NameIn stretch name ∧ first = start ∧ ∀ c, after.head? = some c → c ∈ terminators

/-- A token with the places of a text from `start` up to `stop`. -/
structure Part where
  token : Token
  start : Nat
  stop : Nat

namespace Part

def Covers (part : Part) (place : Nat) : Prop := part.start ≤ place ∧ place < part.stop

def StandsIn (text : List Char) (part : Part) : Prop :=
  ∃ before stretch after, text = before ++ (stretch ++ after) ∧ part.start = before.length ∧
    part.stop = part.start + stretch.length ∧ part.token.WrittenAs part.start stretch after

end Part

/-- The parts of a text from left to right. They do not overlap, and every character that is not
blank is in exactly one. -/
structure Layout (text : List Char) (parts : List Part) : Prop where
  stand : ∀ part ∈ parts, part.StandsIn text
  filled : ∀ part ∈ parts, part.start < part.stop
  apart : parts.Pairwise fun part later => part.stop ≤ later.start
  covered : ∀ place c, text[place]? = some c → isBlank c = false →
    ∃! part, part ∈ parts ∧ part.Covers place

/-- Parts laid one after the other from `start` on, with nothing but blanks between them. -/
inductive Laid : Nat → List Char → List Part → Prop
  | finish (start : Nat) : Laid start [] []
  | blank {start : Nat} {c : Char} {rest : List Char} {parts : List Part}
      (space : isBlank c = true) (later : Laid (start + 1) rest parts) :
      Laid start (c :: rest) parts
  | part {start stop : Nat} {stretch rest : List Char} {token : Token} {parts : List Part}
      (nonempty : stretch ≠ []) (written : token.WrittenAs start stretch rest)
      (ends : stop = start + stretch.length) (later : Laid stop rest parts) :
      Laid start (stretch ++ rest) (⟨token, start, stop⟩ :: parts)

section Names

variable {gap : List Char} {name : String} {c : Char}

theorem NameIn.empty : NameIn [] "" := ⟨nofun, nofun, rfl⟩

theorem NameIn.eq_nil (spelled : NameIn gap "") : gap = [] := by
  cases gap with
  | nil => rfl
  | cons first rest =>
      have letters := spelled.letters
      rw [List.filter_cons_of_pos (by simp [spelled.first first rfl])] at letters
      cases letters

theorem NameIn.ne_nil (spelled : NameIn gap name) (nonempty : name ≠ "") : gap ≠ [] := by
  rintro rfl
  have letters := spelled.letters
  rw [List.filter_nil, eq_comm, String.toList_eq_nil_iff] at letters
  exact nonempty letters

theorem NameIn.blank (spelled : NameIn gap name) (nonempty : name ≠ "")
    (space : isBlank c = true) : NameIn (gap ++ [c]) name := by
  obtain ⟨first, rest, rfl⟩ := List.exists_cons_of_ne_nil (spelled.ne_nil nonempty)
  refine ⟨spelled.first, ?_, ?_⟩
  · exact List.forall_mem_append.mpr
      ⟨spelled.inside, List.forall_mem_singleton.mpr (Or.inl space)⟩
  · have none_left : [c].filter (fun c => !isBlank c) = [] :=
      List.filter_cons_of_neg (by simp [space])
    rw [List.filter_append, none_left, List.append_nil, spelled.letters]

theorem NameIn.letter (spelled : NameIn gap name) (inside : inName c = true) :
    NameIn (gap ++ [c]) (name.push c) := by
  have visible := (inName_iff.mp inside).1
  refine ⟨?_, ?_, ?_⟩
  · intro other head
    cases gap with
    | nil =>
        cases head
        exact visible
    | cons first rest => exact spelled.first other head
  · exact List.forall_mem_append.mpr
      ⟨spelled.inside, List.forall_mem_singleton.mpr (Or.inr inside)⟩
  · rw [List.filter_append, List.filter_cons_of_pos (by simp [visible]), List.filter_nil,
      spelled.letters, String.toList_push]

end Names

section NameParts

variable {name : NamePart} {position : Nat} {gap rest : List Char} {parts : List Part}

theorem Laid.after_name (laid : Laid position rest parts) (spelled : NameIn gap name.text)
    (size : name.beginning position + gap.length = position)
    (ends : ∀ c, rest.head? = some c → c ∈ terminators) :
    ∃ whole, whole.map Part.token = name.unused ++ parts.map Part.token ∧
      Laid (name.beginning position) (gap ++ rest) whole := by
  cases name with
  | none =>
      rw [spelled.eq_nil]
      exact ⟨parts, rfl, laid⟩
  | begun start first later =>
      have filled : gap ≠ [] := spelled.ne_nil (NamePart.ofList_cons_ne_empty first later)
      exact ⟨⟨.stray _ start, start, position⟩ :: parts, rfl,
        .part filled ⟨spelled, rfl, ends⟩ size.symm laid⟩

theorem Laid.terminator (token : Token) (c : Char) (tail : List Char) (ends : c ∈ terminators)
    (written : token.WrittenAs position (c :: tail) rest)
    (laid : Laid (position + (c :: tail).length) rest parts) (spelled : NameIn gap name.text)
    (size : name.beginning position + gap.length = position) :
    ∃ whole, whole.map Part.token = name.unused ++ token :: parts.map Part.token ∧
      Laid (name.beginning position) (gap ++ (c :: tail ++ rest)) whole := by
  have first : Laid position (c :: tail ++ rest)
      (⟨token, position, position + (c :: tail).length⟩ :: parts) :=
    .part (List.cons_ne_nil c tail) written rfl laid
  apply first.after_name spelled size
  intro other head
  cases head
  exact ends

end NameParts

theorem Relation.mark_mem_terminators (value : Relation) : value.mark ∈ terminators := by
  cases value <;> decide

/-- The tokens that a text spells are the parts that it is laid out in. What was read of a name
still stands before it. -/
theorem Token.Spells.laid {name : NamePart} {position : Nat} {text : List Char}
    {row : List Token} (spells : Spells name position text row) (gap : List Char)
    (spelled : NameIn gap name.text) (size : name.beginning position + gap.length = position) :
    ∃ parts, parts.map Part.token = row ∧
      Laid (name.beginning position) (gap ++ text) parts := by
  -- Behind a delimiter no name has begun.
  have fresh (place : Nat) : NamePart.none.beginning place + ([] : List Char).length = place := rfl
  induction spells generalizing gap with
  | finish name position =>
      obtain ⟨parts, tokens, laid⟩ := (Laid.finish position).after_name spelled size nofun
      rw [List.map_nil, List.append_nil] at tokens
      exact ⟨parts, tokens, laid⟩
  | @opening name position rest row later ih =>
      obtain ⟨parts, rfl, laid⟩ := ih [] .empty (fresh _)
      exact Laid.terminator (.opening position) '(' [] (by decide) ⟨rfl, rfl⟩ laid spelled size
  | @closing name position rest row later ih =>
      obtain ⟨parts, rfl, laid⟩ := ih [] .empty (fresh _)
      exact Laid.terminator (.closing position) ')' [] (by decide) ⟨rfl, rfl⟩ laid spelled size
  | @single name position rest row value alone later ih =>
      obtain ⟨parts, rfl, laid⟩ := ih [] .empty (fresh _)
      exact Laid.terminator (.relation value false) value.mark [] value.mark_mem_terminators
        ⟨rfl, alone⟩ laid spelled size
  | @doubled name position rest row value later ih =>
      obtain ⟨parts, rfl, laid⟩ := ih [] .empty (fresh _)
      exact Laid.terminator (.relation value true) value.mark [value.mark]
        value.mark_mem_terminators rfl laid spelled size
  | @comparison name position rest row operator literal longest inside boundary later ih =>
      obtain ⟨parts, rfl, laid⟩ := ih [] .empty (fresh _)
      refine ⟨⟨.comparison name.text (name.beginning position) operator position literal,
        name.beginning position, position + operator.symbol.toList.length + literal.length⟩ ::
          parts, rfl, ?_⟩
      rw [← List.append_assoc operator.symbol.toList, ← List.append_assoc gap]
      refine .part ?_ ⟨gap, rfl, spelled, rfl, size.symm, longest, inside, boundary⟩ ?_ laid
      · obtain ⟨c, member, -⟩ := operator.exists_sign
        exact List.ne_nil_of_mem (List.mem_append_right gap (List.mem_append_left literal member))
      · rw [List.length_append, List.length_append]
        omega
  | @blank name position c rest row space later ih =>
      cases name with
      | none =>
          rw [spelled.eq_nil]
          obtain ⟨parts, tokens, laid⟩ := ih [] .empty (fresh _)
          exact ⟨parts, tokens, .blank space laid⟩
      | begun start first read =>
          rw [List.append_cons]
          apply ih (gap ++ [c]) (spelled.blank (NamePart.ofList_cons_ne_empty first read) space)
          rw [List.length_append, List.length_singleton]
          exact congrArg (· + 1) size
  | @first position c rest row inside later ih =>
      rw [spelled.eq_nil]
      exact ih [c] (NameIn.letter .empty inside) rfl
  | @further start first read position c rest row inside later ih =>
      have longer := spelled.letter inside
      rw [← NamePart.text_further] at longer
      rw [List.append_cons]
      apply ih (gap ++ [c]) longer
      rw [List.length_append, List.length_singleton]
      exact congrArg (· + 1) size

namespace Laid

variable {start : Nat} {text : List Char} {parts : List Part}

theorem bounds (laid : Laid start text parts) :
    ∀ part ∈ parts, start ≤ part.start ∧ part.start < part.stop := by
  induction laid with
  | finish start => exact List.forall_mem_nil _
  | blank space later ih =>
      intro part member
      have inside := ih part member
      omega
  | @part start stop stretch rest token parts nonempty written ends later ih =>
      have size := List.length_pos_iff.mpr nonempty
      have grows : start < stop := by omega
      refine List.forall_mem_cons.mpr ⟨⟨Nat.le_refl _, grows⟩, ?_⟩
      intro part member
      have inside := ih part member
      omega

theorem apart (laid : Laid start text parts) :
    parts.Pairwise fun part later => part.stop ≤ later.start := by
  induction laid with
  | finish start => exact .nil
  | blank space later ih => exact ih
  | part nonempty written ends later ih =>
      apply List.pairwise_cons.mpr
      exact ⟨fun part member => (later.bounds part member).1, ih⟩

theorem stand (laid : Laid start text parts) (before : List Char) (size : before.length = start) :
    ∀ part ∈ parts, part.StandsIn (before ++ text) := by
  induction laid generalizing before with
  | finish start => exact List.forall_mem_nil _
  | @blank start c rest parts space later ih =>
      rw [List.append_cons]
      apply ih
      rw [List.length_append, size, List.length_singleton]
  | @part start stop stretch rest token parts nonempty written ends later ih =>
      refine List.forall_mem_cons.mpr
        ⟨⟨before, stretch, rest, rfl, size.symm, ends, written⟩, ?_⟩
      rw [← List.append_assoc]
      apply ih
      rw [List.length_append, size, ends]

/-- What stands in no part is blank. -/
theorem exists_part (laid : Laid start text parts) (place : Nat) (c : Char)
    (here : text[place]? = some c) (visible : isBlank c = false) :
    ∃ part ∈ parts, part.Covers (start + place) := by
  induction laid generalizing place with
  | finish start => cases here
  | @blank start first rest parts space later ih =>
      cases place with
      | zero =>
          cases here
          rw [visible] at space
          cases space
      | succ place =>
          obtain ⟨part, member, covers⟩ := ih place here
          exact ⟨part, member, by rwa [Nat.add_right_comm] at covers⟩
  | @part start stop stretch rest token parts nonempty written ends later ih =>
      by_cases inside : place < stretch.length
      · refine ⟨_, List.mem_cons_self, ?_⟩
        simp only [Part.Covers]
        omega
      · rw [List.getElem?_append_right (by omega)] at here
        obtain ⟨part, member, covers⟩ := ih _ here
        refine ⟨part, List.mem_cons_of_mem _ member, ?_⟩
        simp only [Part.Covers] at covers ⊢
        omega

end Laid

theorem Part.unique_of_apart {parts : List Part}
    (apart : parts.Pairwise fun part later => part.stop ≤ later.start) {part other : Part}
    {place : Nat} (member : part ∈ parts) (member' : other ∈ parts) (covers : part.Covers place)
    (covers' : other.Covers place) : part = other := by
  let disjoint (part other : Part) : Prop := ¬ (part.Covers place ∧ other.Covers place)
  have symmetric : Std.Symm disjoint := ⟨fun _ _ excluded both => excluded both.symm⟩
  have all : parts.Pairwise disjoint := by
    refine apart.imp ?_
    intro part later ordered both
    simp only [Part.Covers] at both
    omega
  by_contra distinct
  exact all.forall member member' distinct ⟨covers, covers'⟩

/-- Every text has a layout, and its tokens are those that scanning finds. -/
theorem exists_layout (text : List Char) :
    ∃ parts, parts.map Part.token = Token.scan text ∧ Layout text parts := by
  obtain ⟨parts, tokens, (laid : Laid 0 text parts)⟩ :=
    (Token.spells_scan text).laid [] .empty rfl
  have filled : ∀ part ∈ parts, part.start < part.stop := by
    intro part member
    exact (laid.bounds part member).2
  refine ⟨parts, tokens, laid.stand [] rfl, filled, laid.apart, ?_⟩
  intro place c here visible
  obtain ⟨part, member, covers⟩ := laid.exists_part place c here visible
  rw [Nat.zero_add] at covers
  refine ⟨part, ⟨member, covers⟩, ?_⟩
  rintro other ⟨member', covers'⟩
  exact Part.unique_of_apart laid.apart member' member covers' covers

namespace Layout

variable {text : List Char} {parts early late : List Part} {part : Part}

theorem stop_le_length (layout : Layout text parts) (member : part ∈ parts) :
    part.stop ≤ text.length := by
  obtain ⟨before, stretch, after, rfl, start, stop, -⟩ := layout.stand part member
  rw [List.length_append, List.length_append]
  omega

/-- The parts that end where a part ends or earlier are those up to it. -/
theorem filter_stop_le (layout : Layout text (early ++ part :: late)) :
    (early ++ part :: late).filter (fun other => other.stop ≤ part.stop) = early ++ [part] := by
  obtain ⟨-, behind, across⟩ := List.pairwise_append.mp layout.apart
  have start := layout.filled part (List.mem_append_right early List.mem_cons_self)
  have before : early.filter (fun other => other.stop ≤ part.stop) = early := by
    apply List.filter_eq_self.mpr
    intro other member
    have ordered := across other member part List.mem_cons_self
    exact decide_eq_true (by omega)
  have after : late.filter (fun other => other.stop ≤ part.stop) = [] := by
    apply List.filter_eq_nil_iff.mpr
    intro other member
    have ordered := (List.pairwise_cons.mp behind).1 other member
    have grows := layout.filled other
      (List.mem_append_right early (List.mem_cons_of_mem part member))
    simp only [decide_eq_true_eq]
    omega
  have here : decide (part.stop ≤ part.stop) = true := decide_eq_true (Nat.le_refl _)
  rw [List.filter_append, before, List.filter_cons, if_pos here, after]

/-- The place where a name that is not used begins is in no other part. -/
theorem token_at_stray (layout : Layout text parts) {name : String} {start : Nat}
    (member : part ∈ parts) (unused : part.token = .stray name start) :
    ∀ other ∈ parts, other.Covers start → other.token = .stray name start := by
  intro other member' covers'
  obtain ⟨before, stretch, after, -, -, -, written⟩ := layout.stand part member
  rw [unused] at written
  obtain ⟨-, first, -⟩ := written
  have covers : part.Covers start := by
    rw [first]
    exact ⟨Nat.le_refl _, layout.filled part member⟩
  rw [← Part.unique_of_apart layout.apart member member' covers covers', unused]

end Layout

end AdTargeting
