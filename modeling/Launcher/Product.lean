/-!
# What the program says of itself
-/

namespace Launcher.Product

/-- The name under which the program is called. -/
def title : String := "launchkit"

/-- The version. -/
def version : String := "0.3.0"

/-- The name with the version. -/
def intro : String := title ++ " " ++ version

/-- What the program is for, in one sentence. -/
def description : String :=
  "Host-environment primitives for short-lived command-line launchers."

/-- Where the program is found. -/
def url : String := "https://github.com/launchkit/launchkit"

/-- The terms under which the program may be used. -/
def license : String := "Apache-2.0"

end Launcher.Product
