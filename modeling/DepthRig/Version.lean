/-!
# Build identification

The program names itself with its version, its commit and its build time; a build that
was not stamped says `dev` and `unknown`.
-/

namespace DepthRig

/-- The build's version, commit and time. -/
structure BuildInfo where
  version : String := "dev"
  commit : String := "unknown"
  builtAt : String := "unknown"
  deriving Inhabited, Repr

/-- The line that names the build. -/
def BuildInfo.text (b : BuildInfo) : String :=
  "livescan " ++ b.version ++ " (" ++ b.commit ++ ", built " ++ b.builtAt ++ ")"

end DepthRig
