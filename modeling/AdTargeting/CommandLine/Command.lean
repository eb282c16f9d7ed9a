import AdTargeting.NameMap

set_option autoImplicit false

/-
What a command is asked with and what it answers.
-/

namespace AdTargeting

/-- Options asked for on a command line. -/
structure OptionFlags where
  noIntervals : Bool
  noStringSets : Bool
  maxDepth : Option Nat
deriving DecidableEq

inductive Command where
  | eval (attributes condition : String) (flags : OptionFlags)
  | parse (condition : String) (flags : OptionFlags)
  | check (file : String)
deriving DecidableEq

abbrev Variables := NameMap String

/-- The surroundings of a command. -/
structure Surroundings where
  environment : Variables
  /-- The contents of a file, if it can be read. -/
  contents : String → Option String

structure Reply where
  exitCode : Nat
  output : String
  /-- The message of a failure. -/
  failure : Option String
deriving DecidableEq

namespace Reply

def success (output : String) : Reply := ⟨0, output, none⟩

def failed (message : String) : Reply := ⟨1, "", some ("Error: " ++ message)⟩

/-- A command line that cannot be understood. -/
def misused : Reply := ⟨2, "", none⟩

/-- Variables that cannot be set. -/
def aborted : Reply := ⟨101, "", none⟩

end Reply

end AdTargeting
