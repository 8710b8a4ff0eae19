import EntitySchema.Command.Run

/-!
# The program

Reads the part of the file system that the arguments speak of into a file tree, runs the command on
it, and writes what the command changed.
-/

namespace EntitySchema.Command

def Options.directories (options : Options) (workingDir : Location) : List Location :=
  let schemas := (options.schemaPaths workingDir).toOption.getD []
  let targets := match options.config workingDir with
    | .ok config =>
      let root := (FilePath.ofText config.outputDir).resolved workingDir
      [config.baseDir, config.extensionDir].map fun directory =>
        (FilePath.ofText directory).resolved root
    | .error _ => []
  schemas.map FilePath.parts ++ targets

def placesTo (place : Location) : List Location :=
  (List.range (place.length + 1)).map place.take |>.filter fun place => !place.isEmpty

def pathText (place : Location) : String := Text.printable (FilePath.mk true place).text

def withPlace (tree : FileTree) (place : Location) : IO FileTree := do
  let path := (← IO.currentDir) / pathText place
  if ← path.isDir then return tree.put place .directory
  else if ← path.pathExists then return tree.put place (.file (← IO.FS.readBinFile path))
  else return tree

/-- The file tree with a directory, what is in it, and what is on the way to it. -/
def withDirectory (tree : FileTree) (place : Location) : IO FileTree := do
  let tree ← (placesTo place).foldlM withPlace tree
  let path := (← IO.currentDir) / pathText place
  if ← path.isDir then
    let names := (← path.readDir).toList.map fun entry => Text.held entry.fileName
    names.foldlM (fun tree name => withPlace tree (place ++ [name])) tree
  else return tree

/-- The part of the file system that arguments speak of. -/
def workspaceFor (arguments : List String) : IO Workspace := do
  let workingDir := FilePath.partsOf (Text.held (← IO.currentDir).toString)
  let places := match Options.ofArguments arguments with
    | .ok options => options.directories workingDir
    | .error _ => []
  return ⟨← places.foldlM withDirectory .empty, workingDir⟩

def writeEntry : Location × FileNode → IO Unit
  | (place, .directory) => IO.FS.createDirAll (pathText place)
  | (place, .file content) => IO.FS.writeBinFile (pathText place) content

/-- Runs the command on the disk. The result is the exit code. -/
def runOnDisk (arguments : List String) : IO UInt32 := do
  let workspace ← workspaceFor arguments
  let ran := run workspace arguments
  let outcome := ran.value
  (remarks ran).forM fun line => IO.eprintln (Text.printable line)
  (outcome.tree.newEntries workspace.tree).forM writeEntry
  outcome.failure.forM fun failure => IO.eprintln (Text.printable failure.text)
  IO.print (Text.printable outcome.output)
  return outcome.code.toUInt32

end EntitySchema.Command

def main (arguments : List String) : IO UInt32 :=
  EntitySchema.Command.runOnDisk (arguments.map EntitySchema.Text.held)
