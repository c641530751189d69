import WorldAccess.Audit.Report

/-!
# The audit's command line

Reads the files that the arguments name and the environment, and prints the report.
-/

namespace WorldAccess

/-- What is found under a path. -/
def readContent (path : String) : IO FileContent := do
  try
    let bytes ← IO.FS.readBinFile path
    match String.fromUTF8? bytes with
    | some text => return .text text
    | none => return .bytes
  catch
    | .noFileOrDirectory .. => return .absent
    | _ => return .directory

/-- Prints the report on the arguments and gives its status. -/
def runAudit (program : String) (args : List String) : IO UInt32 := do
  let paths := match Audit.Arguments.parse args with
    | .ok a => a.world.toList ++ a.config.toList
    | .error _ => []
  let contents ← paths.mapM fun path => do return (path, ← readContent path)
  let files (path : String) : FileContent := (contents.lookup path).getD .absent
  let env : Environment := {
    globalSite := ← IO.getEnv Config.globalSiteVariable
    maxDepth := ← IO.getEnv Config.maxDepthVariable }
  let report := Audit.report args files env .epoch
  if let some line := report.output then IO.println line
  if let some failure := report.failure then IO.eprintln ("error: " ++ failure.display)
  if report.showsUsage then IO.eprintln (Audit.usage program)
  return report.status.toUInt32

end WorldAccess

/-- The audit's command line. -/
def main (args : List String) : IO UInt32 := WorldAccess.runAudit "world_access" args
