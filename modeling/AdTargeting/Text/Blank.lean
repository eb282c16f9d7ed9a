set_option autoImplicit false

/-
Blank characters: the Unicode property White_Space. Zero-width spaces, the byte order mark and the
ASCII separators do not have it.
-/

namespace AdTargeting

/-- First and last code points of the runs of blank characters, in order. -/
def blankRuns : List (Nat × Nat) :=
  [(0x09, 0x0D), (0x20, 0x20), (0x85, 0x85), (0xA0, 0xA0), (0x1680, 0x1680), (0x2000, 0x200A),
    (0x2028, 0x2029), (0x202F, 0x202F), (0x205F, 0x205F), (0x3000, 0x3000)]

def isBlank (c : Char) : Bool :=
  blankRuns.any fun run => run.1 ≤ c.toNat && c.toNat ≤ run.2

/-- A text without the blank characters at its ends. -/
def trimBlank (text : List Char) : List Char :=
  ((text.dropWhile isBlank).reverse.dropWhile isBlank).reverse

/-- No ASCII character behind the space is blank. -/
theorem isBlank_of_ascii {c : Char} (behind : 0x20 < c.toNat) (ascii : c.toNat < 0x80) :
    isBlank c = false := by
  simp only [isBlank, blankRuns, List.any_cons, List.any_nil, Bool.or_false, Bool.or_eq_false_iff,
    Bool.and_eq_false_imp, decide_eq_true_eq, decide_eq_false_iff_not]
  omega

end AdTargeting
