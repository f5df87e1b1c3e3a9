import ServiceStubs.CommandLine
import ServiceStubs.Event
import ServiceStubs.Host
/-!
The program. The files a request is about are taken in, the request is carried
out on them, and what it changed is put back.
-/

namespace ServiceStubs

def fileAt (text : String) : IO.FS.DirEntry :=
  { root := text, fileName := "" }

def placeText : Place → String
  | "/" :: names => "/" ++ String.intercalate "/" names
  | names => String.intercalate "/" names

def contentOfBytes (bytes : List UInt8) : Content :=
  match Text.ofBytes? bytes with
  | some text => .text text
  | none => .bytes (bytes.map (·.toNat))

def entryAt? (place : Place) : IO (Option DiskEntry) := do
  let file := (fileAt (placeText place)).root
  if ← file.isDir then
    return some .folder
  if ← file.pathExists then
    let bytes ← IO.FS.readBinFile file
    return some (.file (contentOfBytes bytes.toList))
  return none

def takeIn (disk : Disk) (place : Place) : List String → IO Disk
  | [] => return disk
  | name :: rest => do
      if name == "" || name == "." then
        takeIn disk place rest
      else if name == ".." then
        takeIn disk (Disk.above place) rest
      else
        let next := place ++ [name]
        match ← entryAt? next with
        | none => return disk
        | some entry => takeIn (disk.set next entry) next rest

def takeInPath (disk : Disk) (path : FilePath) : IO Disk :=
  takeIn disk (if path.isAbsolute then ["/"] else []) (Disk.components path)

def putBack (before : Disk) : Place × DiskEntry → IO Unit
  | (place, entry) => do
      if before.entry? place ≠ some entry then
        match entry with
        | .folder => IO.FS.createDirAll (placeText place)
        | .file (.text text) => IO.FS.writeFile (placeText place) text
        | .file (.bytes values) =>
            IO.FS.writeBinFile (placeText place) ⟨(values.map Nat.toUInt8).toArray⟩

/-- Makes the file system what `disk` says; `before` is what was taken in. -/
def putAllBack (before disk : Disk) : IO Unit := do
  for (place, _) in before.entries do
    if disk.entry? place == none then
      IO.FS.removeFile (placeText place)
  for entry in disk.entries.reverse do
    putBack before entry

def carryOut (request : Request) : IO UInt32 := do
  let inputs ← request.inputs.foldlM takeInPath {}
  let before ← (request.outputs .own inputs).foldlM takeInPath inputs
  let run := request.run .own before
  putAllBack before run.storage
  IO.print run.text
  let environment ← ["LEVEL", "FORMAT", "INCLUDE_LOCATION"].mapM fun name => do
    let full := "SERVICEGEN_LOG_" ++ name
    return (full, ← IO.getEnv full)
  let config := LogConfig.ofEnvironment fun name => (environment.lookup name).bind id
  for line in config.lines run.allEvents do
    IO.eprintln line
  if let .error failure := run.result then
    IO.eprintln ("Error: " ++ failure.message)
  return run.exitCode.toUInt32

def runProgram (arguments : List String) : IO UInt32 := do
  match CommandLine.read arguments with
  | .ok request => carryOut request
  | .error refusal =>
      for line in CommandLine.helpLines do
        if refusal == .help then IO.println line else IO.eprintln line
      return refusal.exitCode.toUInt32

end ServiceStubs

def main (arguments : List String) : IO UInt32 :=
  ServiceStubs.runProgram arguments
