import AdTargeting.Condition.Token
import AdTargeting.Proofs.Text.Substitution

set_option autoImplicit false

/-
What normalization leaves apart. Each of its substitutions looks for a word between spaces, so none
reaches across a character that is neither a space nor in one of the words.
-/

namespace AdTargeting

/-- The characters of what normalization looks for. -/
def soughtCharacters : List Char := [' ', '=', 'a', 'n', 'd', 'o', 'r']

/-- One substitution of normalization: what it looks for, and what it puts there. -/
structure Pass where
  sought : List Char
  written : List Char
deriving DecidableEq

namespace Pass

def apply (text : List Char) (pass : Pass) : List Char := substitute pass.sought pass.written text

def all : List Pass :=
  [⟨" and ".toList, " && ".toList⟩, ⟨" or ".toList, " || ".toList⟩, ⟨" = ".toList, "=".toList⟩]

theorem sought_of_mem : ∀ pass ∈ all, pass.sought ≠ [] ∧ pass.sought ⊆ soughtCharacters := by
  decide

/-- A text after so many substitutions, each made in what those before it left. -/
def after (count : Nat) (text : List Char) : List Char := (all.take count).foldl apply text

theorem shortSpelling_eq (text : List Char) : shortSpelling text = after 3 text := rfl

/-- Whatever substitutions are made, the parts of a text that a character divides do not meet when
none of them looks for it. -/
theorem foldl_around {passes : List Pass} {c : Char}
    (foreign : ∀ pass ∈ passes, pass.sought ≠ [] ∧ c ∉ pass.sought) (first second : List Char) :
    passes.foldl apply (first ++ c :: second) =
      passes.foldl apply first ++ c :: passes.foldl apply second := by
  induction passes generalizing first second with
  | nil => rfl
  | cons pass passes ih =>
      obtain ⟨⟨nonempty, absent⟩, later⟩ := List.forall_mem_cons.mp foreign
      have divided : apply (first ++ c :: second) pass =
          apply first pass ++ c :: apply second pass :=
        substitute_around first second nonempty absent
      rw [List.foldl_cons, divided, ih later, List.foldl_cons, List.foldl_cons]

theorem after_around {c : Char} (foreign : c ∉ soughtCharacters) (count : Nat)
    (first second : List Char) :
    after count (first ++ c :: second) = after count first ++ c :: after count second := by
  apply foldl_around
  intro pass member
  obtain ⟨nonempty, known⟩ := sought_of_mem pass (List.mem_of_mem_take member)
  exact ⟨nonempty, fun sought => foreign (known sought)⟩

end Pass

/-- The short spelling of a text that a foreign character divides is that of its parts. -/
theorem shortSpelling_around {c : Char} (before after : List Char)
    (foreign : c ∉ soughtCharacters) :
    shortSpelling (before ++ c :: after) = shortSpelling before ++ c :: shortSpelling after := by
  simp only [Pass.shortSpelling_eq]
  exact Pass.after_around foreign 3 before after

/-- Normalization treats the texts on both sides of a foreign character as if each stood alone, and
so does each of its substitutions, though it runs over what those before it have written. -/
theorem normalize_around (before after : String) {c : Char} (foreign : c ∉ soughtCharacters) :
    normalize (before ++ String.singleton c ++ after) =
      normalize before ++ String.singleton c ++ normalize after ∧
    ∀ count, Pass.after count (before.toList ++ c :: after.toList) =
      Pass.after count before.toList ++ c :: Pass.after count after.toList := by
  refine ⟨?_, fun count => Pass.after_around foreign count _ _⟩
  have whole : (before ++ String.singleton c ++ after).toList =
      before.toList ++ c :: after.toList := by
    simp only [String.toList_append, String.toList_singleton, List.append_assoc,
      List.cons_append, List.nil_append]
  apply String.toList_inj.mp
  simp only [normalize, whole, shortSpelling_around _ _ foreign, String.toList_append,
    String.toList_ofList, String.toList_singleton, List.append_assoc, List.cons_append,
    List.nil_append]

/-- Words that share their spaces, on both sides of a bar that normalization could have written. -/
theorem normalize_around_bar :
    '|' ∉ soughtCharacters ∧
      normalize ("a and or = and" ++ String.singleton '|' ++ " or = and b") =
        "a && ||=and" ++ String.singleton '|' ++ " ||=&& b" ∧
      Pass.after 1 "a and or = and| or = and b".toList =
        Pass.after 1 "a and or = and".toList ++ '|' :: Pass.after 1 " or = and b".toList := by
  have foreign : '|' ∉ soughtCharacters := by decide
  obtain ⟨divided, stages⟩ := normalize_around "a and or = and" " or = and b" foreign
  have before : normalize "a and or = and" = "a && ||=and" := by decide +kernel
  have after : normalize " or = and b" = " ||=&& b" := by decide +kernel
  rw [before, after] at divided
  exact ⟨foreign, divided, stages 1⟩

/-- A character that normalization neither looks for nor writes is there as often as before. -/
theorem count_shortSpelling {c : Char} (text : List Char) (foreign : c ∉ soughtCharacters)
    (unwritten : c ∉ ['&', '|']) : (shortSpelling text).count c = text.count c := by
  have absent (part : List Char) (known : part ⊆ soughtCharacters ++ ['&', '|']) : c ∉ part := by
    intro member
    rcases List.mem_append.mp (known member) with sought | written
    · exact foreign sought
    · exact unwritten written
  simp only [shortSpelling]
  rw [count_substitute (by decide) (absent _ (by decide)) (absent _ (by decide)),
    count_substitute (by decide) (absent _ (by decide)) (absent _ (by decide)),
    count_substitute (by decide) (absent _ (by decide)) (absent _ (by decide))]

theorem shortSpelling_of_blank {text : List Char} (blank : ∀ c ∈ text, isBlank c = true) :
    shortSpelling text = text := by
  have absent (c : Char) (visible : isBlank c = false) : c ∉ text := by
    intro member
    rw [blank c member] at visible
    cases visible
  have no_a := absent 'a' (by decide)
  have no_o := absent 'o' (by decide)
  have no_equality := absent '=' (by decide)
  simp only [shortSpelling]
  rw [substitute_of_not_mem (by decide) no_a, substitute_of_not_mem (by decide) no_o,
    substitute_of_not_mem (by decide) no_equality]

end AdTargeting
