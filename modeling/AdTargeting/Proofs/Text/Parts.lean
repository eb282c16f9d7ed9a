import AdTargeting.Text.Split

set_option autoImplicit false

/-
Parts of a text: maximal runs of characters with a property, places in it, and what stands between
separators.
-/

namespace AdTargeting

section Runs

variable {α : Type} {p : α → Bool} {run rest : List α}

theorem takeWhile_run (inside : ∀ c ∈ run, p c = true)
    (boundary : ∀ c, rest.head? = some c → p c = false) : (run ++ rest).takeWhile p = run := by
  rw [List.takeWhile_append_of_pos inside]
  cases rest with
  | nil => simp only [List.takeWhile_nil, List.append_nil]
  | cons c tail => simp only [List.takeWhile_cons, boundary c rfl, Bool.false_eq_true, ↓reduceIte,
      List.append_nil]

theorem dropWhile_run (inside : ∀ c ∈ run, p c = true)
    (boundary : ∀ c, rest.head? = some c → p c = false) : (run ++ rest).dropWhile p = rest := by
  rw [List.dropWhile_append_of_pos inside]
  cases rest with
  | nil => rfl
  | cons c tail => simp only [List.dropWhile_cons, boundary c rfl, Bool.false_eq_true, ↓reduceIte]

theorem mem_takeWhile_run {text : List α} {c : α} (member : c ∈ text.takeWhile p) : p c = true := by
  have all := List.all_takeWhile (p := p) (l := text)
  exact List.all_eq_true.mp all c member

theorem head?_dropWhile_run (text : List α) (c : α) (first : (text.dropWhile p).head? = some c) :
    p c = false := by
  have stopped := List.head?_dropWhile_not p text
  rw [first] at stopped
  simpa using stopped

end Runs

theorem getElem?_behind {α : Type} (before rest : List α) :
    (before ++ rest)[before.length]? = rest.head? := by
  rw [List.getElem?_append_right (Nat.le_refl _), Nat.sub_self, List.head?_eq_getElem?]

/-- Two places in one list: the same one, or one after the other. -/
theorem places_cases {α : Type} {before before' after after' : List α} {place place' : α}
    (same : before ++ place :: after = before' ++ place' :: after') :
    (before = before' ∧ place = place' ∧ after = after') ∨
    (∃ gap, before' = before ++ place :: gap ∧ after = gap ++ place' :: after') ∨
    ∃ gap, before = before' ++ place' :: gap ∧ after' = gap ++ place :: after := by
  rcases List.append_eq_append_iff.mp same with ⟨gap, rfl, rest⟩ | ⟨gap, rfl, rest⟩
  · cases gap with
    | nil =>
        obtain ⟨rfl, rfl⟩ := List.cons.inj rest
        exact Or.inl ⟨(List.append_nil _).symm, rfl, rfl⟩
    | cons next gap =>
        obtain ⟨rfl, rfl⟩ := List.cons.inj rest
        exact Or.inr (Or.inl ⟨gap, rfl, rfl⟩)
  · cases gap with
    | nil =>
        obtain ⟨rfl, rfl⟩ := List.cons.inj rest
        exact Or.inl ⟨List.append_nil _, rfl, rfl⟩
    | cons next gap =>
        obtain ⟨rfl, rfl⟩ := List.cons.inj rest
        exact Or.inr (Or.inr ⟨gap, rfl, rfl⟩)

/-- A place in a list that grew at its end: the new place, or one before it. -/
theorem places_concat {α : Type} {list before after : List α} {last place : α}
    (split : list ++ [last] = before ++ place :: after) :
    (list = before ∧ last = place ∧ after = []) ∨
    ∃ gap, list = before ++ place :: gap ∧ after = gap ++ [last] := by
  rcases places_cases split with ⟨rfl, rfl, rfl⟩ | ⟨gap, -, ends⟩ | ⟨gap, rfl, rest⟩
  · exact Or.inl ⟨rfl, rfl, rfl⟩
  · exact absurd ends.symm (List.append_ne_nil_of_right_ne_nil _ (List.cons_ne_nil _ _))
  · exact Or.inr ⟨gap, rfl, rest⟩

/-- Some place in the list is of the first kind, and none behind it is of the second. -/
def LastPlace {α : Type} (first second : α → Prop) (list : List α) : Prop :=
  ∃ before place after, list = before ++ place :: after ∧ first place ∧
    ∀ later ∈ after, ¬ second later

section LastPlace

variable {α : Type} {first second : α → Prop} {list : List α}

theorem not_lastPlace_nil : ¬ LastPlace first second [] := by
  rintro ⟨before, place, after, split, -⟩
  exact List.append_ne_nil_of_right_ne_nil _ (List.cons_ne_nil _ _) split.symm

theorem lastPlace_concat {last : α} :
    LastPlace first second (list ++ [last]) ↔
      first last ∨ (¬ second last ∧ LastPlace first second list) := by
  constructor
  · rintro ⟨before, place, after, split, here, quiet⟩
    rcases places_concat split with ⟨-, rfl, -⟩ | ⟨gap, rfl, rfl⟩
    · exact Or.inl here
    · obtain ⟨inGap, atEnd⟩ := List.forall_mem_append.mp quiet
      exact Or.inr ⟨atEnd last (List.mem_singleton_self last), before, place, gap, rfl, here, inGap⟩
  · rintro (here | ⟨idle, before, place, after, rfl, here, quiet⟩)
    · exact ⟨list, last, [], rfl, here, List.forall_mem_nil _⟩
    · refine ⟨before, place, after ++ [last], by rw [List.append_assoc, List.cons_append], here, ?_⟩
      simp only [List.forall_mem_append, List.forall_mem_singleton]
      exact ⟨quiet, idle⟩

end LastPlace

theorem prefix_of_append {α : Type} {before first second : List α}
    (inside : before <+: first ++ second) :
    before <+: first ∨ ∃ part, part <+: second ∧ before = first ++ part := by
  obtain ⟨after, split⟩ := inside
  rcases List.append_eq_append_iff.mp split with ⟨rest, short, -⟩ | ⟨part, long, tail⟩
  · exact Or.inl ⟨rest, short.symm⟩
  · exact Or.inr ⟨part, ⟨after, tail.symm⟩, long⟩

section Separators

variable {separator : Char}

theorem splitAt_of_not_mem {part : List Char} (absent : separator ∉ part) :
    splitAt separator part = [part] := by
  induction part with
  | nil => rfl
  | cons c rest ih =>
      rw [List.mem_cons, not_or] at absent
      simp only [splitAt, ih absent.2, Ne.symm absent.1, ↓reduceIte]

theorem splitAt_append {part : List Char} (rest : List Char) (absent : separator ∉ part) :
    splitAt separator (part ++ separator :: rest) = part :: splitAt separator rest := by
  induction part with
  | nil =>
      obtain ⟨next, others, parts⟩ := List.exists_cons_of_ne_nil (splitAt_ne_nil separator rest)
      simp only [List.nil_append, splitAt, parts, ↓reduceIte]
  | cons c part ih =>
      rw [List.mem_cons, not_or] at absent
      simp only [List.cons_append, splitAt, ih absent.2, Ne.symm absent.1, ↓reduceIte]

theorem length_splitAt (text : List Char) :
    (splitAt separator text).length = text.count separator + 1 := by
  induction text with
  | nil => rfl
  | cons c rest ih =>
      obtain ⟨next, others, parts⟩ := List.exists_cons_of_ne_nil (splitAt_ne_nil separator rest)
      rw [parts, List.length_cons] at ih
      simp only [splitAt, parts]
      by_cases same : c = separator
      · rw [if_pos same, same, List.count_cons_self, ← ih, List.length_cons, List.length_cons]
      · rw [if_neg same, List.count_cons_of_ne same, ← ih, List.length_cons]

theorem not_mem_of_mem_splitAt {text part : List Char} (member : part ∈ splitAt separator text) :
    separator ∉ part := by
  induction text generalizing part with
  | nil =>
      rw [List.mem_singleton.mp member]
      exact List.not_mem_nil
  | cons c rest ih =>
      obtain ⟨next, others, parts⟩ := List.exists_cons_of_ne_nil (splitAt_ne_nil separator rest)
      rw [parts] at ih
      simp only [splitAt, parts] at member
      split at member
      · rcases List.mem_cons.mp member with rfl | later
        · exact List.not_mem_nil
        · exact ih later
      · rename_i different
        rcases List.mem_cons.mp member with rfl | later
        · rw [List.mem_cons, not_or]
          exact ⟨Ne.symm different, ih List.mem_cons_self⟩
        · exact ih (List.mem_cons_of_mem _ later)

end Separators

end AdTargeting
