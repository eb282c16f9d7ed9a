set_option autoImplicit false

/-
The text of a scalar that runs over several lines: a single line break is folded to a space, blanks
around breaks are dropped, and of several breaks all but the first stay.
-/

namespace AdTargeting

namespace Yaml

/-- The text of a scalar so far, with the blanks and line breaks since its last character. The
first break is kept apart, because a single one is folded to a space. -/
structure Collected where
  text : String
  blanks : String
  breaks : Option (String × String)

namespace Collected

def start : Collected := ⟨"", "", none⟩

def addBlank (collected : Collected) (c : Char) : Collected :=
  match collected.breaks with
  | none => { collected with blanks := collected.blanks.push c }
  | some _ => collected

def addBreak (collected : Collected) (c : Char) : Collected :=
  match collected.breaks with
  | none => { collected with blanks := "", breaks := some (c.toString, "") }
  | some (first, more) => { collected with breaks := some (first, more.push c) }

/-- A line break that is written but not meant. -/
def escapeBreak (collected : Collected) : Collected :=
  { collected with blanks := "", breaks := some ("", "") }

/-- Turns what has been put off into text. -/
def flush (collected : Collected) : Collected :=
  match collected.breaks with
  | none => ⟨collected.text ++ collected.blanks, "", none⟩
  | some (first, more) =>
      if first = "\n" then ⟨collected.text ++ (if more = "" then " " else more), "", none⟩
      else ⟨collected.text ++ first ++ more, "", none⟩

def push (collected : Collected) (c : Char) : Collected :=
  { collected.flush with text := collected.flush.text.push c }

end Collected

end Yaml

end AdTargeting
