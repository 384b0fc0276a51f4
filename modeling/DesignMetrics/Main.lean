import DesignMetrics.Command.Run

/-!
# The program

Reads the current directory into a tree, runs the command line on it, and writes what has changed.
-/

namespace DesignMetrics.Main

open DesignMetrics.Files (Tree Node)

/-- A path below the current directory. -/
def below (path : String) :=
  (IO.FS.DirEntry.mk "." path).path

/-- A link target that leads nowhere. -/
def nowhere : String := "/nowhere"

/-- Where a link in a directory leads, as seen from there. Links that lead out of the current
directory, or nowhere, lead nowhere. -/
def linkTarget (top : String) (names : List String) : IO String := do
  let real ←
    try pure (← IO.FS.realPath (below ("/".intercalate names))).toString
    catch _ => pure nowhere
  if !real.startsWith (top ++ "/") then return nowhere
  return String.join (names.dropLast.map fun _ => "../") ++ (real.drop (top.length + 1)).toString

/-- Reads everything below a directory into a tree. Files that cannot be read are left out. -/
partial def readInto (top : String) (names : List String) (t : Tree) : IO Tree := do
  let mut t := t
  for entry in ← (below ("/".intercalate names)).readDir do
    let names := names ++ [entry.fileName]
    match (← entry.path.symlinkMetadata).type with
    | .dir => t ← readInto top names (t.put (Tree.home ++ names) .directory)
    | .symlink => t := t.put (Tree.home ++ names) (.link (← linkTarget top names))
    | .file =>
      let bytes ← try some <$> IO.FS.readBinFile entry.path catch _ => pure none
      if let some bytes := bytes then t := t.put (Tree.home ++ names) (.file bytes.toList)
    | .other => pure ()
  return t

/-- Writes the files that a run has changed. -/
def writeChanges (before after : Tree) : IO Unit := do
  for (names, bytes) in before.changedFiles after do
    IO.FS.createDirAll (below ("/".intercalate names.dropLast))
    IO.FS.writeBinFile (below ("/".intercalate names)) ⟨bytes.toArray⟩

end DesignMetrics.Main

open DesignMetrics in
/-- Analyzes a directory below the current one. Events and problems go to the error stream. -/
def main (words : List String) : IO UInt32 := do
  let top ← IO.FS.realPath "."
  let tree ← Main.readInto top.toString [] .empty
  let result := (Command.run tree words).run
  for e in Log.visible (Command.logLevel words) result.events do
    IO.eprintln e.message
  match result.value with
  | .error e => do
    IO.eprintln e.message
    return 1
  | .ok outcome => do
    IO.eprint outcome.stderr
    IO.print outcome.stdout
    Main.writeChanges tree outcome.tree
    return UInt32.ofNat outcome.code
