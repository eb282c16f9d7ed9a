import AdTargeting.CommandLine.Arguments
import AdTargeting.CommandLine.Program
import AdTargeting.CommandLine.Variables
import AdTargeting.Json.Read
import AdTargeting.Suite.Read

set_option autoImplicit false

/-
The program with the readers that come with it.
-/

namespace AdTargeting

def Packages.bundled : Packages where
  command arguments :=
    match Command.ofArguments? arguments with
    | some command => .ok command
    | none => .error .misused
  prepare := Surroundings.variables?
  json := Json.read
  suite := Suite.decode?

def reply (arguments : List String) (surroundings : Surroundings) : Reply :=
  Packages.bundled.reply arguments surroundings

end AdTargeting
