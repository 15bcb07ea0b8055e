import ArtifactTools.CommandLine.Program
import ArtifactTools.CommandLine.Reach
import ArtifactTools.Host.Layout
import ArtifactTools.Process.SystemLauncher

/-! The program on a real disk. What a request bears on is taken up from the disk, the request is
answered, and the files that the answer has changed are put back. Tools run within what the library
knows of a host: scripts for its shell. -/

namespace ArtifactTools.Disk

def nameOf (location : Location) : String := (Host.pathOf location).display

def look (files : FileTree) (location : Location) : IO FileTree := do
  match ← (IO.FS.realPath (nameOf location)).toBaseIO with
  | .error _ => return files
  | .ok place =>
      if ← place.isDir then return files.put location (.directory FileTree.programMode)
      match ← (IO.FS.readBinFile place).toBaseIO with
      | .error _ => return files
      | .ok content => return files.create location content.toList FileTree.programMode

def locationsTo (location : Location) : List Location :=
  (List.range location.length).map fun index => location.take (index + 1)

def takeUp (host : Host) (path : Path) : IO Host := do
  let mut files := host.files
  for location in locationsTo (FileTree.place (host.absolute path).display) do
    if (files.node? location).isNone then
      files ← look files location
  return { host with files }

def start : IO Host := do
  let directory := FileTree.place (← IO.currentDir).toString
  let environment ← CommandLine.variableNames.filterMapM fun name => do
    return (← IO.getEnv name).map fun value => (name, Utf8.encode value)
  let host : Host := ⟨FileTree.usual, directory, environment⟩
  takeUp host host.workingDirectory

def prepare (arguments : List String) : IO Host := do
  let host ← start
  match CommandLine.Request.read arguments with
  | .error _ => return host
  | .ok request =>
      let host ← takeUp host (request.configPath host)
      match Config.loadOrDefault host request.config with
      | .error _ => return host
      | .ok config => (request.places host config).foldlM takeUp host

def putBack (before after : FileTree) (entry : Location × Node) : IO Unit := do
  match entry.2 with
  | .directory _ =>
      if (before.node? entry.1).isNone then IO.FS.createDirAll (nameOf entry.1)
  | .file number =>
      let content? := (after.files[number]?).map (·.content)
      if let some content := content? then
        if (before.fileAt? entry.1).map (·.content) ≠ content? then
          IO.FS.writeBinFile (nameOf entry.1) ⟨content.toArray⟩
  | _ => return

end ArtifactTools.Disk

open ArtifactTools in
def main (arguments : List String) : IO UInt32 := do
  let host ← Disk.prepare arguments
  let exit := CommandLine.run SystemLauncher.launcher host arguments
  exit.host.files.nodes.forM (Disk.putBack host.files exit.host.files)
  IO.print exit.output
  IO.eprint exit.errors
  return UInt32.ofNat exit.code
