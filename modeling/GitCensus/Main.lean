import GitCensus.CommandLine.Run
import GitCensus.Repository.Files
/-!
# The program

Reads the environment and the files of the repository that the arguments name, runs the
program on them, and writes what it leaves behind.
-/

namespace GitCensus

/-- The files in directories and below them, with `before` in front of their paths. -/
partial def filesOf (before : String) (entries : Array IO.FS.DirEntry) :
    IO Repository.Files := do
  let mut files := []
  for e in entries do
    let path := before ++ e.fileName
    if ← e.path.isDir then
      files := files ++ (← filesOf (path ++ "/") (← e.path.readDir))
    else
      files := (path, (← IO.FS.readBinFile e.path).toList) :: files
  return files

def repositoryAt (path : String) : IO (Option Repository) := do
  try
    let files ← filesOf "" (← (← IO.FS.realPath path).readDir)
    if (files.lookup "HEAD").isSome then return some (Repository.Files.repository files)
    let inner := files.filterMap fun (path, file) =>
      if ".git/".toList.isPrefixOf path.toList then
        some (String.ofList (path.toList.drop 5), file)
      else none
    if (inner.lookup "HEAD").isSome then return some (Repository.Files.repository inner)
    return none
  catch _ => return none

/-- More rounds than sizing the trees of a repository takes. -/
def roundLimit : Nat := 1000000000000000

end GitCensus

open GitCensus

/-- Runs the program.  Objects are served by the program itself, under the name of the
usual server. -/
def main (args : List String) : IO UInt32 := do
  let names := ["GITSIZES_REPO", "GITSIZES_BACKEND", "GITSIZES_GIT"]
  let values ← names.mapM fun name => return (name, ← IO.getEnv name)
  let env := CommandLine.Environment.ofVariables fun name =>
    (List.lookup name values).join
  let path := match CommandLine.Invocation.read env args with
    | .ok i => i.repository
    | .error _ => none
  let found ← match path with
    | some path => repositoryAt path
    | none => pure none
  let host : CommandLine.Host := {
    repository? := fun p => if some p = path then found else none
    hasProgram := (· = "git") }
  match CommandLine.run roundLimit host env args with
  | none => return 1
  | some outcome =>
    (← IO.getStdout).putStr outcome.output
    (← IO.getStderr).putStr outcome.errors
    if let some fault := outcome.brokenOff then (← IO.getStderr).putStrLn fault.message
    return UInt32.ofNat outcome.exitCode
