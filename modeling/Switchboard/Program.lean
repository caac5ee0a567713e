/-!
# The program

What the program says about itself.
-/

namespace Switchboard

/-- The name of the program. -/
def programName : String := "chathub"

/-- The version of the program. -/
def programVersion : String := "0.1.0"

end Switchboard
