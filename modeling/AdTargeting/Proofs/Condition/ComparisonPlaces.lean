import AdTargeting.Proofs.Condition.Account
import AdTargeting.Proofs.Condition.Switches

set_option autoImplicit false

/-
Where the comparisons of a tree stand in their text. Each has its operator at its position, its
literal behind that, and its name between the token before it and the operator.
-/

namespace AdTargeting

def lastStop (parts : List Part) : Nat := (parts.getLast?.map Part.stop).getD 0

theorem lastStop_concat (parts : List Part) (last : Part) :
    lastStop (parts ++ [last]) = last.stop := by
  rw [lastStop, List.getLast?_concat]
  rfl

theorem terminators_subset : terminators ⊆ delimiters := by decide

section Between

variable {text : List Char} {early late : List Part} {part : Part}

theorem stop_le_lastStop {parts : List Part} (filled : ∀ part ∈ parts, part.start < part.stop)
    (apart : parts.Pairwise fun part later => part.stop ≤ later.start) :
    ∀ part ∈ parts, part.stop ≤ lastStop parts := by
  intro part member
  rcases List.eq_nil_or_concat' parts with rfl | ⟨before, last, rfl⟩
  · cases member
  · rw [lastStop_concat]
    rcases List.mem_append.mp member with earlier | here
    · have ordered := (List.pairwise_append.mp apart).2.2 part earlier last
        (List.mem_singleton_self last)
      have grows := filled last (List.mem_append_right before (List.mem_singleton_self last))
      omega
    · rw [List.mem_singleton.mp here]

namespace Layout

theorem lastStop_le (layout : Layout text (early ++ part :: late)) :
    lastStop early ≤ part.start := by
  obtain ⟨-, -, across⟩ := List.pairwise_append.mp layout.apart
  cases before : early.getLast? with
  | none =>
      rw [lastStop, before]
      exact Nat.zero_le _
  | some last =>
      rw [lastStop, before]
      exact across last (List.mem_of_getLast? before) part List.mem_cons_self

theorem blank_between (layout : Layout text (early ++ part :: late)) {place : Nat} {c : Char}
    (here : text[place]? = some c) (behind : lastStop early ≤ place) (ahead : place < part.start) :
    isBlank c = true := by
  by_contra visible
  obtain ⟨other, ⟨member, covers⟩, -⟩ :=
    layout.covered place c here (Bool.not_eq_true _ ▸ visible)
  obtain ⟨first, second, -⟩ := List.pairwise_append.mp layout.apart
  have filled := List.forall_mem_append.mp layout.filled
  obtain ⟨starts, stops⟩ := covers
  rcases List.mem_append.mp member with earlier | later
  · have stop := stop_le_lastStop filled.1 first other earlier
    omega
  · rcases List.mem_cons.mp later with rfl | after
    · omega
    · have ordered := (List.pairwise_cons.mp second).1 other after
      have grows := layout.filled part (List.mem_append_right early List.mem_cons_self)
      omega

variable {name : String} {first position : Nat} {operator : Operator} {literal : List Char}

theorem position_inside {parts : List Part} (layout : Layout text parts) (member : part ∈ parts)
    (token : part.token = .comparison name first operator position literal) :
    part.start ≤ position ∧ position < part.stop := by
  obtain ⟨before, stretch, after, -, -, stop, written⟩ := layout.stand part member
  rw [token] at written
  obtain ⟨gap, rfl, -, -, place, -⟩ := written
  obtain ⟨sign, inside, -⟩ := operator.exists_sign
  have size := List.length_pos_of_mem inside
  rw [List.length_append, List.length_append] at stop
  omega

/-- The name of a comparison is what is not blank between the part before it and its operator. -/
theorem name_between (layout : Layout text (early ++ part :: late))
    (token : part.token = .comparison name first operator position literal) :
    name.toList = ((text.take position).drop (lastStop early)).filter fun c => !isBlank c := by
  obtain ⟨before, stretch, after, whole, start, -, written⟩ :=
    layout.stand part (List.mem_append_right early List.mem_cons_self)
  rw [token] at written
  obtain ⟨gap, rfl, spelled, -, place, -⟩ := written
  have behind := layout.lastStop_le
  rw [start] at behind place
  have read : text.take position = before ++ gap := by
    rw [whole, List.append_assoc gap, ← List.append_assoc before]
    apply List.take_left'
    rw [List.length_append, place]
  have blank : (before.drop (lastStop early)).filter (fun c => !isBlank c) = [] := by
    apply List.filter_eq_nil_iff.mpr
    intro c member
    obtain ⟨index, here⟩ := List.mem_iff_getElem?.mp member
    rw [List.getElem?_drop] at here
    obtain ⟨inside, -⟩ := List.getElem?_eq_some_iff.mp here
    have found : text[lastStop early + index]? = some c := by
      rw [whole, List.getElem?_append_left inside, here]
    have space := layout.blank_between found (Nat.le_add_right _ _) (by omega)
    simp [space]
  rw [read, List.drop_append_of_le_length behind, List.filter_append, blank, List.nil_append,
    spelled.letters]

/-- A name that is not used reaches to what ends it. -/
theorem terminator_behind_stray {parts : List Part} (layout : Layout text parts)
    (member : part ∈ parts) (unused : part.token.isStray = true) {c : Char}
    (here : text[part.stop]? = some c) : c ∈ terminators := by
  obtain ⟨before, stretch, after, rfl, start, stop, written⟩ := layout.stand part member
  have size : part.stop = (before ++ stretch).length := by
    rw [stop, start, List.length_append]
  rw [size, ← List.append_assoc, getElem?_behind] at here
  cases kind : part.token with
  | stray name first =>
      rw [kind] at written
      exact written.2.2 c here
  | opening position => simp [kind, Token.isStray] at unused
  | closing position => simp [kind, Token.isStray] at unused
  | relation value doubled => simp [kind, Token.isStray] at unused
  | comparison name start operator position literal => simp [kind, Token.isStray] at unused

/-- A comparison starts with a letter of its name or with its operator. -/
theorem not_terminator_at_comparison {parts : List Part} (layout : Layout text parts)
    (member : part ∈ parts)
    (token : part.token = .comparison name first operator position literal) {c : Char}
    (here : text[part.start]? = some c) : c ∉ terminators := by
  obtain ⟨before, stretch, after, rfl, start, -, written⟩ := layout.stand part member
  rw [token] at written
  obtain ⟨gap, rfl, spelled, -⟩ := written
  rw [start, getElem?_behind] at here
  cases gap with
  | nil => cases operator <;> cases here <;> decide
  | cons letter rest =>
      cases here
      have visible := spelled.first c rfl
      rcases spelled.inside c List.mem_cons_self with space | inside
      · rw [visible] at space
        cases space
      · exact fun ends => (inName_iff.mp inside).2 (terminators_subset ends)

/-- No name that is not used stands right before a comparison: it would be part of its name. -/
theorem not_stray_before (layout : Layout text (early ++ part :: late))
    (token : part.token = .comparison name first operator position literal) :
    ∀ previous, early.getLast? = some previous → previous.token.isStray = false := by
  intro previous last
  by_contra used
  have unused := Bool.not_eq_false _ ▸ used
  have here_part : part ∈ early ++ part :: late :=
    List.mem_append_right early List.mem_cons_self
  have behind := layout.lastStop_le
  have stop : lastStop early = previous.stop := by
    rw [lastStop, last]
    rfl
  have inside : previous.stop < text.length := by
    have grows := layout.filled part here_part
    have size := layout.stop_le_length here_part
    omega
  obtain ⟨c, here⟩ : ∃ c, text[previous.stop]? = some c :=
    ⟨_, List.getElem?_eq_getElem inside⟩
  have ends := layout.terminator_behind_stray
    (List.mem_append_left _ (List.mem_of_getLast? last)) unused here
  rcases Nat.lt_or_eq_of_le behind with ahead | touching
  · have space := layout.blank_between here (Nat.le_of_eq stop) (stop ▸ ahead)
    exact not_mem_delimiters_of_blank space (terminators_subset ends)
  · rw [← stop, touching] at here
    exact layout.not_terminator_at_comparison here_part token here ends

end Layout

end Between

/-- What a text has of a comparison. Its operator stands at its position and is not part of a longer
one, its literal is read from the longest run behind that, and its name is what is not blank
between the operator and the token before. -/
structure Comparison.FoundIn (options : Options) (text : List Char) (parts : List Part)
    (comparison : Comparison) : Prop where
  operator : ∃ rest, text.drop comparison.position =
      comparison.operator.symbol.toList ++ rest ∧
    (comparison.operator.Extensible → rest.head? ≠ some '=')
  written : comparison.literalText text ≠ []
  literal : Literal.read options (comparison.literalText text)
    (comparison.position + comparison.operator.width) = .ok comparison.literal
  name : ∃ early part late start, parts = early ++ part :: late ∧
    part.token = .comparison comparison.name start comparison.operator comparison.position
      (comparison.literalText text) ∧
    (∀ previous, early.getLast? = some previous → previous.token.isStray = false) ∧
    comparison.name.toList =
      ((text.take comparison.position).drop (lastStop early)).filter fun c => !isBlank c

section Trees

variable {options : Options} {row : List Token} {terms : List Term} {read : Option Relation}

def Landmark.isComparison : Landmark → Bool
  | comparison _ => true
  | _ => false

def Token.isComparison : Token → Bool
  | comparison _ _ _ _ _ => true
  | _ => false

namespace Expression

mutual

theorem filter_landmarks (expression : Expression) :
    (landmarks expression).filter Landmark.isComparison =
      (comparisons expression).map .comparison := by
  match expression with
  | .compare comparison => rfl
  | .scope terms =>
      have inside := filter_termLandmarks terms
      rw [landmarks, comparisons, List.filter_append, List.filter_cons_of_neg Bool.false_ne_true,
        inside]
      exact List.append_nil _

theorem filter_termLandmarks (terms : List Term) :
    (termLandmarks terms).filter Landmark.isComparison =
      (termComparisons terms).map .comparison := by
  match terms with
  | [] => rfl
  | ⟨_, expression⟩ :: rest =>
      rw [termLandmarks, termComparisons, List.filter_append, List.map_append,
        filter_landmarks expression, filter_termLandmarks rest]

end

end Expression

/-- The comparisons of a row show those of the terms, in the same order. -/
theorem Content.comparisons (content : Content options row terms read) :
    List.Forall₂ (fun token comparison => Token.Shows options token (.comparison comparison))
      (row.filter Token.isComparison) (Expression.termComparisons terms) := by
  have alike : ∀ ⦃token : Token⦄ ⦃landmark : Landmark⦄, Token.Shows options token landmark →
      (token.isComparison = true ↔ landmark.isComparison = true) := by
    intro token landmark shows
    cases shows <;> rfl
  have filtered := List.rel_filter alike content.landmarks
  rw [Expression.filter_termLandmarks, List.forall₂_map_right_iff, List.filter_filter] at filtered
  have silent (token : Token) :
      (token.isComparison && token.isLandmark) = token.isComparison := by
    cases token <;> rfl
  simp only [silent] at filtered
  exact filtered

/-- What holds of all pairs in a row of related things holds of what they are related to. -/
theorem pairwise_of_forall₂ {α β : Type} {related : α → β → Prop} {before : β → β → Prop}
    {first : List α} {second : List β} (pairs : List.Forall₂ related first second)
    (ordered : first.Pairwise fun x x' => ∀ y y', related x y → related x' y' → before y y') :
    second.Pairwise before := by
  obtain ⟨size, pairs⟩ := List.forall₂_iff_get.mp pairs
  rw [List.pairwise_iff_get] at ordered ⊢
  intro i j below
  have left : i < first.length := Nat.lt_of_lt_of_eq i.isLt size.symm
  have right : j < first.length := Nat.lt_of_lt_of_eq j.isLt size.symm
  exact ordered ⟨i, left⟩ ⟨j, right⟩ below _ _ (pairs i left i.isLt) (pairs j right j.isLt)

theorem exists_of_forall₂ {α β : Type} {related : α → β → Prop} {first : List α}
    {second : List β} (pairs : List.Forall₂ related first second) {y : β} (member : y ∈ second) :
    ∃ x ∈ first, related x y := by
  induction pairs with
  | nil => cases member
  | cons here later ih =>
      rcases List.mem_cons.mp member with rfl | after
      · exact ⟨_, List.mem_cons_self, here⟩
      · obtain ⟨x, inside, there⟩ := ih after
        exact ⟨x, List.mem_cons_of_mem _ inside, there⟩

variable {text : List Char} {parts : List Part} {comparison : Comparison}

theorem Layout.positions_increase (layout : Layout text parts) {shown : List Comparison}
    (shows : List.Forall₂
      (fun part comparison => Token.Shows options part.token (.comparison comparison))
      (parts.filter fun part => part.token.isComparison) shown) :
    shown.Pairwise fun earlier later => earlier.position < later.position := by
  apply pairwise_of_forall₂ shows
  apply (layout.apart.imp_of_mem _).filter
  intro part later member member' ordered comparison comparison' here there
  generalize kind : part.token = token at here
  generalize kind' : later.token = token' at there
  cases here with
  | comparison name start operator position =>
      cases there with
      | comparison name' start' operator' position' =>
          have first := (layout.position_inside member kind).2
          have second := (layout.position_inside member' kind').1
          exact Nat.lt_of_lt_of_le first (Nat.le_trans ordered second)

theorem Layout.foundIn (layout : Layout text parts) {part : Part} (member : part ∈ parts)
    (shows : Token.Shows options part.token (.comparison comparison)) :
    comparison.FoundIn options text parts := by
  generalize kind : part.token = token at shows
  cases shows with
  | @comparison name start operator position run literal nonempty classified =>
      obtain ⟨early, late, rfl⟩ := List.append_of_mem member
      have named := layout.name_between kind
      have unused := layout.not_stray_before kind
      obtain ⟨before, stretch, after, whole, begins, -, written⟩ := layout.stand part member
      rw [kind] at written
      obtain ⟨gap, rfl, -, -, place, longest, inside, boundary⟩ := written
      have here : text.drop position = operator.symbol.toList ++ (run ++ after) := by
        rw [whole, List.append_assoc gap, ← List.append_assoc before, List.append_assoc _ run]
        apply List.drop_left'
        rw [List.length_append, place, begins]
      have stands : (Token.comparison name start operator position run).StandsIn text :=
        ⟨after, here, inside, boundary⟩
      have written := stands.literalText_eq literal
      refine ⟨⟨run ++ after, here, longest⟩, ?_, ?_, early, part, late, start, rfl, ?_, unused,
        named⟩
      · rwa [written]
      · rw [written, Literal.read, classified]
      · rw [written, kind]

end Trees

/-- The comparisons of a parsed condition are found in its short spelling from left to right: each
has its operator, its literal and its name where its position says. The parts are the tokens of
the short spelling. -/
theorem parse_comparison_places {options : Options} {condition : String} {tree : Expression}
    (parsed : (parse options condition).result = .ok tree) :
    (tree.comparisons.Pairwise fun earlier later => earlier.position < later.position) ∧
      ∃ parts, parts.map Part.token = Token.scan (normalize condition).toList ∧
        Layout (normalize condition).toList parts ∧
        ∀ comparison ∈ tree.comparisons,
          comparison.FoundIn options (normalize condition).toList parts := by
  obtain ⟨row, terms, read, spelled, content, rfl, -⟩ := content_of_parse parsed
  obtain ⟨parts, tokens, layout⟩ := exists_layout (normalize condition).toList
  have scanned : row = parts.map Part.token := by
    rw [tokens, Token.spells_iff.mp spelled]
  have shows := content.comparisons
  rw [scanned, List.filter_map, List.forall₂_map_left_iff] at shows
  refine ⟨layout.positions_increase shows, parts, tokens, layout, ?_⟩
  intro comparison member
  obtain ⟨part, inside, here⟩ := exists_of_forall₂ shows member
  exact layout.foundIn (List.mem_of_mem_filter inside) here

/-- Letters of more than one byte, blanks inside of names, and relations that became shorter. -/
theorem parse_comparison_places_letters :
    let condition := "grö ße = ü and (日 x<=2 or é>3)"
    normalize condition = "grö ße=ü && (日 x<=2 || é>3)" ∧
    ∃ tree, (parse {} condition).result = .ok tree ∧
      tree.comparisons.map (fun comparison => (comparison.name, comparison.position)) =
        [("größe", 6), ("日x", 16), ("é", 24)] ∧
      (tree.comparisons.Pairwise fun earlier later => earlier.position < later.position) ∧
      ∃ parts, Layout (normalize condition).toList parts ∧
        ∀ comparison ∈ tree.comparisons,
          comparison.FoundIn {} (normalize condition).toList parts := by
  intro condition
  obtain ⟨tree, parsed, places⟩ : ∃ tree, (parse {} condition).result = .ok tree ∧
      tree.comparisons.map (fun comparison => (comparison.name, comparison.position)) =
        [("größe", 6), ("日x", 16), ("é", 24)] := exists_ok_of_map (by decide +kernel)
  obtain ⟨increasing, parts, -, layout, found⟩ := parse_comparison_places parsed
  exact ⟨by decide +kernel, tree, parsed, places, increasing, parts, layout, found⟩

end AdTargeting
