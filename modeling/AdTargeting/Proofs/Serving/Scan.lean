import AdTargeting.Proofs.Condition.Lexeme
import AdTargeting.Proofs.Evaluation.Verdict

set_option autoImplicit false

/-
Serving a condition while it is read: one scan from left to right that keeps the values of the open
scopes and builds no tree.
-/

namespace AdTargeting

/-- A scope that is being read: its value, once it is determined, and the relation read last. -/
structure Frame where
  value : Option Bool
  pending : Option Relation

namespace Frame

def undetermined : Frame := ⟨none, none⟩

/-- The truth of the scope when it ends here. Nothing in it asks for nothing. -/
def verdict (frame : Frame) : Bool := frame.value.getD true

/-- Combines the value with one more truth by the relation read last, which is used up. An
undetermined value is set. -/
def combine (frame : Frame) (truth : Bool) : Frame :=
  match frame.value, frame.pending with
  | some value, some .and => ⟨some (value && truth), none⟩
  | some value, some .or => ⟨some (value || truth), none⟩
  | _, _ => ⟨some truth, none⟩

theorem combine_related (value : Bool) (relation : Relation) (truth : Bool) :
    combine ⟨some value, some relation⟩ truth = ⟨some (relation.apply value truth), none⟩ := by
  cases relation <;> rfl

end Frame

/-- The open scopes at a place of the text. -/
structure Frames where
  inner : Frame
  /-- The scopes around it, from the nearest to the outermost. -/
  outer : List Frame

namespace Frames

def start : Frames := ⟨.undetermined, []⟩

def bottom (frames : Frames) : Frame := frames.outer.getLastD frames.inner

def push (frames : Frames) : Frames := ⟨.undetermined, frames.inner :: frames.outer⟩

def relate (frames : Frames) (relation : Relation) : Frames :=
  { frames with inner := { frames.inner with pending := some relation } }

def combine (frames : Frames) (truth : Bool) : Frames :=
  { frames with inner := frames.inner.combine truth }

end Frames

section Scan

variable (options : Options) (attributes : Attributes)

/-- Scans a text that begins at `position`, in open scopes and after a pending name. A comparison is
evaluated as soon as its literal is read, and the first absent attribute or error ends the scan. -/
def serveFrom (frames : Frames) (name : String) (position : Nat) :
    List Char → Except ConditionError Bool
  | [] => .ok frames.bottom.verdict
  | c :: rest =>
      if c = '(' then serveFrom frames.push "" (position + 1) rest
      else if c = ')' then
        match frames.outer with
        | [] => .error (.unmatchedClose position)
        | frame :: outer =>
            serveFrom ⟨frame.combine frames.inner.verdict, outer⟩ "" (position + 1) rest
      else
        match Relation.startingWith c, Operator.startingWith c rest with
        | some relation, _ =>
            if rest.head? = some c then
              serveFrom (frames.relate relation) "" (position + 2) (rest.drop 1)
            else
              serveFrom (frames.relate relation) "" (position + 1) rest
        | none, some operator =>
            let tail := rest.drop (operator.width - 1)
            let text := tail.takeWhile inLiteral
            if text = [] then .error (.danglingOperator operator position)
            else
              match Literal.read options text (position + operator.width) with
              | .error reason => .error reason
              | .ok literal =>
                  match attributes.get? name with
                  | none => .ok false
                  | some stored =>
                      match Comparison.judge ⟨name, operator, literal, position⟩ stored with
                      | .error reason => .error reason
                      | .ok truth =>
                          serveFrom (frames.combine truth) ""
                            (position + operator.width + text.length) (tail.dropWhile inLiteral)
        | none, none =>
            if isBlank c then serveFrom frames name (position + 1) rest
            else serveFrom frames (name.push c) (position + 1) rest
termination_by text => text.length
decreasing_by
  all_goals simp only [List.length_cons, List.length_drop]
  all_goals try omega
  have shorter := (List.dropWhile_sublist inLiteral
    (l := rest.drop (operator.width - 1))).length_le
  simp only [List.length_drop] at shorter
  omega

def serveInOnePass (condition : String) : Except ConditionError Bool :=
  serveFrom options attributes .start "" 0 (normalize condition).toList

variable (frames : Frames) (name : String) (position : Nat) (rest : List Char)

theorem serveFrom_nil :
    serveFrom options attributes frames name position [] = .ok frames.bottom.verdict := by
  rw [serveFrom]

theorem serveFrom_opening :
    serveFrom options attributes frames name position ('(' :: rest) =
      serveFrom options attributes frames.push "" (position + 1) rest := by
  rw [serveFrom]
  simp only [↓reduceIte]

theorem serveFrom_closing (inner frame : Frame) (outer : List Frame) :
    serveFrom options attributes ⟨inner, frame :: outer⟩ name position (')' :: rest) =
      serveFrom options attributes ⟨frame.combine inner.verdict, outer⟩ "" (position + 1) rest := by
  rw [serveFrom]
  simp only [Char.reduceEq, ↓reduceIte]

theorem serveFrom_single (value : Relation) (alone : rest.head? ≠ some value.mark) :
    serveFrom options attributes frames name position (value.mark :: rest) =
      serveFrom options attributes (frames.relate value) "" (position + 1) rest := by
  rw [serveFrom]
  cases value <;>
    simp only [Relation.mark] at alone ⊢ <;>
    simp only [Relation.startingWith, Char.reduceEq, ↓reduceIte, alone]

theorem serveFrom_doubled (value : Relation) :
    serveFrom options attributes frames name position (value.mark :: value.mark :: rest) =
      serveFrom options attributes (frames.relate value) "" (position + 2) rest := by
  rw [serveFrom]
  cases value <;>
    simp only [Relation.mark, Relation.startingWith, Char.reduceEq, ↓reduceIte, List.head?_cons,
      List.drop_succ_cons, List.drop_zero]

theorem serveFrom_other (c : Char) (ordinary : c ∉ delimiters) :
    serveFrom options attributes frames name position (c :: rest) =
      if isBlank c then serveFrom options attributes frames name (position + 1) rest
      else serveFrom options attributes frames (name.push c) (position + 1) rest := by
  simp only [delimiters, List.mem_cons, List.not_mem_nil, or_false, not_or] at ordinary
  obtain ⟨opening, closing, and, or, less, greater, equal⟩ := ordinary
  rw [serveFrom]
  simp only [opening, closing, Relation.startingWith, and, or, Operator.startingWith, less, greater,
    equal, ↓reduceIte]

theorem serveFrom_blank (c : Char) (space : isBlank c = true) :
    serveFrom options attributes frames name position (c :: rest) =
      serveFrom options attributes frames name (position + 1) rest := by
  rw [serveFrom_other _ _ _ _ _ _ c (not_mem_delimiters_of_blank space), if_pos space]

theorem serveFrom_letter (c : Char) (inside : inName c = true) :
    serveFrom options attributes frames name position (c :: rest) =
      serveFrom options attributes frames (name.push c) (position + 1) rest := by
  obtain ⟨visible, ordinary⟩ := inName_iff.mp inside
  rw [serveFrom_other _ _ _ _ _ _ c ordinary, visible]
  rfl

section Comparing

variable (operator : Operator) {text : List Char} {literal : Literal}
  (longest : operator.Extensible → (text ++ rest).head? ≠ some '=')
  (inside : ∀ c ∈ text, ¬ EndsLiteral c)
  (boundary : ∀ c, rest.head? = some c → EndsLiteral c) (nonempty : text ≠ [])
  (classified : Literal.classify options text = some literal)

include longest inside boundary nonempty classified

theorem serveFrom_comparison :
    serveFrom options attributes frames name position
        (operator.symbol.toList ++ (text ++ rest)) =
      match attributes.get? name with
      | none => .ok false
      | some stored =>
          match Comparison.judge ⟨name, operator, literal, position⟩ stored with
          | .error reason => .error reason
          | .ok truth =>
              serveFrom options attributes (frames.combine truth) ""
                (position + operator.width + text.length) rest := by
  obtain ⟨c, tail, split, starts, other, after⟩ := operator.symbol_starts (text ++ rest) longest
  have opening : c ≠ '(' := by
    rintro rfl
    cases starts
  have closing : c ≠ ')' := by
    rintro rfl
    cases starts
  rw [split, serveFrom]
  simp only [opening, closing, other, starts, after, takeWhile_literal inside boundary,
    dropWhile_literal inside boundary, nonempty, Literal.read, classified, ↓reduceIte]

/-- A comparison that cannot be made ends the scan. -/
theorem serveFrom_of_halts {outcome : Except ConditionError Bool}
    (halts : Comparison.Halts attributes ⟨name, operator, literal, position⟩ outcome) :
    serveFrom options attributes frames name position
      (operator.symbol.toList ++ (text ++ rest)) = outcome := by
  rw [serveFrom_comparison options attributes frames name position rest operator longest inside
    boundary nonempty classified]
  cases halts with
  | absent missing => simp only [missing]
  | misfit present kind asks other =>
      obtain rfl := AttributeValue.hasKind_iff.mp kind
      obtain rfl := Literal.hasKind_iff.mp asks
      simp only [present, Comparison.judge_misfit other]
  | unordered present string other =>
      simp only [present, Comparison.judge_unordered _ string other]

theorem serveFrom_of_runs
    (runs : ¬ Comparison.Halting attributes ⟨name, operator, literal, position⟩) :
    serveFrom options attributes frames name position
        (operator.symbol.toList ++ (text ++ rest)) =
      serveFrom options attributes
        (frames.combine (Comparison.holds attributes ⟨name, operator, literal, position⟩)) ""
        (position + operator.width + text.length) rest := by
  rw [serveFrom_comparison options attributes frames name position rest operator longest inside
    boundary nonempty classified]
  cases present : attributes.get? name with
  | none => exact absurd ⟨_, .absent present⟩ runs
  | some stored => simp only [Comparison.judge_holds present runs]

end Comparing

end Scan

end AdTargeting
