import PageExtract.CommandLine.Report

/-! # The program

Reads the files that the command names, and prints the report.
-/
namespace PageExtract.CommandLine

/-- Opening fails on a path that leads through a file, as if it were a folder: nothing stands there.
A folder can be opened, but not read. -/
def entryAt (path : String) : IO Entry := do
  match ← (IO.FS.readBinFile path).toBaseIO with
  | .ok content => return .file content
  | .error (.noFileOrDirectory ..) => return .missing
  | .error (.inappropriateType (some _) ..) => return .missing
  | .error (.inappropriateType none ..) => return folder
  | .error error => return .unreadable (toString error)

def namedPaths (args : List String) : List String :=
  match Invocation.ofArguments args with
  | .ok i => i.command.paths
  | .error _ => []

end PageExtract.CommandLine

open PageExtract.CommandLine in
def main (args : List String) : IO UInt32 := do
  let entries ← (namedPaths args).mapM fun path => return (path, ← entryAt path)
  let report := run (fun path => (entries.lookup path).getD .missing) args
  report.notices.forM fun notice => IO.eprintln notice.describe
  IO.print report.printed
  report.messages.forM IO.eprintln
  return report.code.toUInt32
