import AdTargeting.Proofs.Text.Parts
import AdTargeting.Text.Substitution

set_option autoImplicit false

/-
What substitution does at the front of a text: an occurrence is replaced as a whole, and anything
that begins no occurrence is passed over. A character that no occurrence has divides the text.
-/

namespace AdTargeting

variable {old new : List Char}

theorem not_prefix_cons {c next : Char} {tail rest : List Char} (differs : c ≠ next) :
    ¬ c :: tail <+: next :: rest := by
  intro occurs
  exact differs (List.cons_prefix_cons.mp occurs).1

theorem substituteFrom_skip (skipped rest : List Char) :
    substituteFrom old new skipped.length (skipped ++ rest) = substitute old new rest := by
  induction skipped with
  | nil => rfl
  | cons c skipped ih => exact ih

theorem substitute_occurrence (rest : List Char) (nonempty : old ≠ []) :
    substitute old new (old ++ rest) = new ++ substitute old new rest := by
  obtain ⟨c, tail, rfl⟩ := List.exists_cons_of_ne_nil nonempty
  have occurs : (c :: tail).isPrefixOf (c :: (tail ++ rest)) = true := by
    rw [List.isPrefixOf_iff_prefix]
    exact List.prefix_append (c :: tail) rest
  rw [substitute, List.cons_append, substituteFrom, if_pos occurs]
  exact congrArg (new ++ ·) (substituteFrom_skip tail rest)

theorem substitute_cons {c : Char} {rest : List Char} (elsewhere : ¬ old <+: c :: rest) :
    substitute old new (c :: rest) = c :: substitute old new rest := by
  rw [← List.isPrefixOf_iff_prefix] at elsewhere
  rw [substitute, substituteFrom, if_neg elsewhere]
  rfl

theorem substitute_run {c : Char} {tail run : List Char} (rest : List Char) (absent : c ∉ run) :
    substitute (c :: tail) new (run ++ rest) = run ++ substitute (c :: tail) new rest := by
  induction run with
  | nil => rfl
  | cons next run ih =>
      rw [List.mem_cons, not_or] at absent
      rw [List.cons_append, substitute_cons (not_prefix_cons absent.1), ih absent.2,
        List.cons_append]

theorem substitute_of_not_mem {c : Char} {text : List Char} (sought : c ∈ old) (absent : c ∉ text) :
    substitute old new text = text := by
  induction text with
  | nil => rfl
  | cons next rest ih =>
      have elsewhere : ¬ old <+: next :: rest := by
        intro occurs
        exact absent (occurs.subset sought)
      have later : c ∉ rest := by
        intro member
        exact absent (List.mem_cons_of_mem next member)
      rw [substitute_cons elsewhere, ih later]

/-- An occurrence that starts before a character it lacks also ends before it. -/
theorem prefix_of_foreign {c : Char} {before after : List Char} (foreign : c ∉ old)
    (occurs : old <+: before ++ c :: after) : old <+: before := by
  rcases prefix_of_append occurs with short | ⟨tail, inside, rfl⟩
  · exact short
  · cases tail with
    | nil => simp only [List.append_nil, List.prefix_rfl]
    | cons next tail =>
        obtain ⟨rfl, -⟩ := List.cons_prefix_cons.mp inside
        exact absurd (List.mem_append_right before List.mem_cons_self) foreign

/-- Substitution does not reach across a character that is not sought. -/
theorem substituteFrom_around {c : Char} {before : List Char} {pending : Nat} (after : List Char)
    (nonempty : old ≠ []) (foreign : c ∉ old) (within : pending ≤ before.length) :
    substituteFrom old new pending (before ++ c :: after) =
      substituteFrom old new pending before ++ c :: substitute old new after := by
  induction before generalizing pending with
  | nil =>
      have none_left : pending = 0 := Nat.le_zero.mp within
      subst none_left
      have elsewhere : ¬ old <+: c :: after := by
        intro occurs
        have short : old <+: [] := prefix_of_foreign foreign occurs
        exact nonempty (List.prefix_nil.mp short)
      exact substitute_cons elsewhere
  | cons next before ih =>
      rw [List.length_cons] at within
      cases pending with
      | succ pending => exact ih (by omega)
      | zero =>
          by_cases occurs : old <+: next :: before
          · have longer : old <+: next :: (before ++ c :: after) :=
              occurs.trans (List.prefix_append (next :: before) (c :: after))
            have size := occurs.length_le
            rw [List.length_cons] at size
            have rest := @ih (old.length - 1) (by omega)
            rw [← List.isPrefixOf_iff_prefix] at occurs longer
            simp only [List.cons_append, substituteFrom, occurs, longer, ↓reduceIte, rest,
              List.append_assoc]
          · have elsewhere : ¬ old <+: next :: (before ++ c :: after) := by
              intro reaches
              rw [← List.cons_append] at reaches
              exact occurs (prefix_of_foreign foreign reaches)
            have rest := @ih 0 (Nat.zero_le _)
            rw [← List.isPrefixOf_iff_prefix] at occurs elsewhere
            simp only [List.cons_append, substituteFrom, occurs, elsewhere, Bool.false_eq_true,
              ↓reduceIte, rest]

theorem substitute_around {c : Char} (before after : List Char) (nonempty : old ≠ [])
    (foreign : c ∉ old) :
    substitute old new (before ++ c :: after) =
      substitute old new before ++ c :: substitute old new after :=
  substituteFrom_around after nonempty foreign (Nat.zero_le _)

theorem count_substituteFrom {c : Char} (nonempty : old ≠ []) (foreign : c ∉ old) (unput : c ∉ new)
    (pending : Nat) (text : List Char) :
    (substituteFrom old new pending text).count c = (text.drop pending).count c := by
  induction text generalizing pending with
  | nil => simp only [substituteFrom, List.drop_nil]
  | cons next rest ih =>
      cases pending with
      | succ pending => exact ih pending
      | zero =>
          rw [List.drop_zero]
          by_cases occurs : old <+: next :: rest
          · have hit := List.isPrefixOf_iff_prefix.mpr occurs
            rw [substituteFrom, if_pos hit, List.count_append, List.count_eq_zero_of_not_mem unput,
              Nat.zero_add, ih]
            obtain ⟨after, split⟩ := occurs
            obtain ⟨first, tail, rfl⟩ := List.exists_cons_of_ne_nil nonempty
            rw [List.cons_append] at split
            obtain ⟨rfl, rfl⟩ := List.cons.inj split
            have absent := List.count_eq_zero_of_not_mem foreign
            rw [List.length_cons, Nat.add_sub_cancel, List.drop_left, ← List.cons_append,
              List.count_append, absent, Nat.zero_add]
          · have miss : ¬ old.isPrefixOf (next :: rest) = true := by
              rwa [List.isPrefixOf_iff_prefix]
            have kept := ih 0
            rw [List.drop_zero] at kept
            rw [substituteFrom, if_neg miss, List.count_cons, kept, List.count_cons]

theorem count_substitute {c : Char} (nonempty : old ≠ []) (foreign : c ∉ old) (unput : c ∉ new)
    (text : List Char) : (substitute old new text).count c = text.count c :=
  count_substituteFrom nonempty foreign unput 0 text

end AdTargeting
