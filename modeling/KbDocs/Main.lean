/-
The program: it looks at the files that a command line names, runs the
command line on them, and carries out what the run did.
-/
import KbDocs.CommandLine.Run
import Std.Time.Format

namespace KbDocs.Main

open CommandLine Files

/-- The path as the system takes it. -/
def systemPath (root : String) (l : Location) : String :=
  (FilePath.mk root l).toString

/-- Adds what stands at a location, and on the way to it, to a tree. Of a
directory, the entries are added but not their contents. -/
def look (root : String) (tree : FileTree) (l : Location) : IO FileTree := do
  let mut tree := tree
  for n in List.range (l.length + 1) do
    let here := l.take n
    let place := System.mkFilePath [systemPath root here]
    if ← place.isDir then
      if n != 0 then tree := tree.put here .directory
      if n == l.length then
        for entry in ← place.readDir do
          let kind : Entry := if ← entry.path.isDir then .directory else .file []
          let there := here ++ [entry.fileName]
          if (tree.get? there).isNone then tree := tree.put there kind
    else if ← place.pathExists then
      let bytes ← IO.FS.readBinFile place
      tree := tree.put here (.file bytes.data.toList)
  return tree

/-- Adds what stands at some paths to a tree. -/
def lookAll (tree : FileTree) (paths : List FilePath) : IO FileTree :=
  paths.foldlM (fun t p => look p.root t p.parts) tree

/-- The paths that a command reads, and those that it writes below, which
its settings may decide. -/
def paths (tree : FileTree) : Command → List FilePath × FilePath
  | .generate input output config =>
      let configPath := FilePath.ofString (config.getD Config.fileName)
      let config := (Config.load tree configPath).toOption.getD {}
      ([FilePath.ofString input, configPath],
        FilePath.ofString (output.getD config.outputDirectory))
  | .extract input _ config | .signature input _ _ config =>
      ([FilePath.ofString input, FilePath.ofString (config.getD Config.fileName)],
        FilePath.ofString ".")

/-- The time of day. -/
def now : IO Page.Timestamp := do
  let t ← Std.Time.PlainDateTime.now
  return ⟨t.year.toInt.toNat, t.month.toInt.toNat, t.day.toInt.toNat,
    t.hour.toInt.toNat, t.minute.toInt.toNat, t.second.toInt.toNat⟩

/-- Writes the files that a run changed. -/
def carryOut (root : String) (before after : FileTree) : IO Unit := do
  for (l, content) in FileTree.changedFiles before after do
    IO.FS.createDirAll (systemPath root l.dropLast)
    IO.FS.writeBinFile (systemPath root l) ⟨content.toArray⟩

end KbDocs.Main

open KbDocs in
/-- Runs the program. -/
def main (args : List String) : IO UInt32 := do
  let (tree, root) ← match CommandLine.Request.ofArguments args with
    | .run _ command => do
        let tree ← Main.lookAll {} (Main.paths {} command).1
        let target := (Main.paths tree command).2
        pure (← Main.lookAll tree [target], target.root)
    | _ => pure ({}, "")
  let outcome := CommandLine.run args tree (← Main.now)
  IO.print outcome.screen
  for entry in outcome.log do
    IO.eprintln (entry.level.label ++ " " ++ entry.message)
  for complaint in outcome.complaints do
    IO.eprintln complaint
  Main.carryOut root tree outcome.tree
  return outcome.exitCode.toUInt32
