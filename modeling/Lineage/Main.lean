import Lineage.CommandLine.Run
import Lineage.CommandLine.Usage

/-!
# The program

Copies the files that an invocation may look at into a tree, carries out the invocation on it, and
prints what it leaves behind.
-/

namespace Lineage.Main

open Lineage.CommandLine

/-- Copies a file, or a directory with everything in it. -/
partial def copyTree (entry : IO.FS.DirEntry) : IO FileTree := do
  if ← entry.path.isDir then
    let children ← (← entry.path.readDir).toList.mapM fun child =>
      return (child.fileName, ← copyTree child)
    return .directory children
  else return .file (← IO.FS.readBinFile entry.path)

/-- Adds what an absolute path leads to, if that can be read. -/
def addPath (here : IO.FS.DirEntry) (tree : FileTree) (path : String) : IO FileTree := do
  try
    let found ← copyTree { here with fileName := path }
    return tree.place found (Path.downward path)
  catch _ => return tree

/-- The file system with what the given paths lead to. -/
def fileSystem (here : IO.FS.DirEntry) (paths : List String) : IO FileSystem := do
  let workingDirectory := here.root.toString
  let absolute := paths.map (Path.join workingDirectory)
  let start := FileTree.empty.place .empty (Path.downward workingDirectory)
  return ⟨← absolute.foldlM (addPath here) start, workingDirectory⟩

/-- The files at which an invocation looks before it knows where its templates are. -/
def firstPaths (invocation : Invocation) (configVariable : Option String) : List String :=
  let content :=
    match invocation.command with
    | .validate _ (some path) => [path]
    | _ => []
  Configuration.localName :: invocation.config.toList ++ configVariable.toList ++ content

/-- Carries out an invocation and prints what it leaves behind. -/
def carryOut (invocation : Invocation) : IO UInt32 := do
  let here : IO.FS.DirEntry := ⟨← IO.currentDir, ""⟩
  let configVariable ← IO.getEnv "SCAFFOLD_CONFIG"
  let output ← IO.getStdout
  let palette : Palette := ⟨(← output.isTty) && (← IO.getEnv "NO_COLOR").isNone⟩
  let input ←
    if invocation.command.readsInput then (← IO.getStdin).readBinToEnd else pure ByteArray.empty
  let paths := firstPaths invocation configVariable
  let surroundings : Surroundings :=
    { files := ← fileSystem here paths, input, configVariable, palette }
  let outcome ←
    match Workplace.ofInvocation surroundings invocation with
    | .error trouble => pure (.error trouble)
    | .ok workplace =>
      let files ← fileSystem here (workplace.templates.root :: paths)
      pure (invocation.run { surroundings with files })
  match outcome with
  | .ok completion =>
    output.putStr completion.output
    return completion.exitCode.toUInt32
  | .error trouble =>
    (← IO.getStderr).putStr (palette.explanation (Explanation.ofTrouble trouble))
    return failureExitCode.toUInt32

end Lineage.Main

open Lineage.CommandLine in
/-- Reads the arguments and carries out what they ask for. -/
def main (arguments : List String) : IO UInt32 :=
  match Invocation.ofArguments arguments with
  | .ok invocation => Lineage.Main.carryOut invocation
  | .error refusal => do
    let stream ← if refusal.exitCode = 0 then IO.getStdout else IO.getStderr
    stream.putStr refusal.message
    return refusal.exitCode.toUInt32
