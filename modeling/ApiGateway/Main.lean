import ApiGateway.CommandLine.Startup
import Std.Time.DateTime.Timestamp

/-!
# The program

The outer layer of the command line: it reads the files that the arguments and the
configuration name, runs `Startup.run`, writes the files that have changed and prints what
the run left behind.
-/

namespace ApiGateway.CommandLine

/-- The variables that the program asks for. -/
def variableNames : List String :=
  Log.filterVariable :: Parameter.all.filterMap Parameter.environmentName?

def readEnvironment : IO Environment :=
  variableNames.filterMapM fun name => do
    return (← IO.getEnv name).map (name, ·)

/-- Add what was found for a path, at its own place, and a link to there from where the names of the
path lead. -/
def addEntry (files : FileTree) (path found : String) (entry : FileEntry) : FileTree :=
  let named := (FileTree.components path).foldl FileTree.step
    (FileTree.start files.workingDirectory path)
  let place := FileTree.components found
  let link := if named = place then [] else [(named, .link found)]
  { files with entries := files.entries ++ (place, entry) :: link }

/-- Add a directory, where there is one. -/
def addDirectory (files : FileTree) (path : String) : IO FileTree := do
  try
    let found ← IO.FS.realPath path
    return if ← found.isDir then addEntry files path found.toString .directory else files
  catch _ => return files

/-- Add the file at a path, where there is one, and the directories on the way there. -/
def addFile (files : FileTree) (path : String) : IO FileTree := do
  let root := if path.startsWith "/" then "/" else ""
  let names := FileTree.components path
  let above := (List.range names.length).map fun n => root ++ "/".intercalate (names.take n)
  let files ← above.foldlM addDirectory files
  try
    let content ← IO.FS.readBinFile path
    return addEntry files path (← IO.FS.realPath path).toString (.file content)
  catch _ => return files

/-- The files that a configuration names. -/
def namedFiles (config : Config) : List String :=
  let logFiles := (config.logging.bind (·.targets)).getD [] |>.filterMap (·.path)
  [config.routesFile, config.privateKey, config.certificate].reduceOption ++ logFiles

/-- The files that a command line is about. -/
def readFiles (words : List String) (environment : Environment) : IO FileTree := do
  let here := FileTree.ofEntries (FileTree.components (← IO.currentDir).toString) []
  match Arguments.parse words environment with
  | .error _ => return here
  | .ok arguments =>
    let named := [arguments.value? .config, arguments.value? .sampleConfig].reduceOption
    let files ← named.foldlM addFile here
    match Startup.loadConfig files (arguments.value? .config) with
    | .error _ => return files
    | .ok config => (namedFiles (arguments.override config).config).foldlM addFile files

/-- Write the files of a run that were not there before or have changed. -/
def writeFiles (before after : FileTree) : IO Unit :=
  after.entries.forM fun (names, entry) => do
    let path := "/" ++ "/".intercalate names
    match entry, before.entries.lookup names with
    | .file content, some (.file old) => if content != old then IO.FS.writeBinFile path content
    | .file content, _ => IO.FS.writeBinFile path content
    | _, _ => return

end ApiGateway.CommandLine

open ApiGateway ApiGateway.CommandLine in
def main (words : List String) : IO UInt32 := do
  let environment ← readEnvironment
  let files ← readFiles words environment
  let now ← Std.Time.Timestamp.now
  let run := Startup.run files environment now.toNanosecondsSinceUnixEpoch.val words
  writeFiles files run.files
  (← IO.getStdout).putStr run.stdout
  (← IO.getStderr).putStr run.stderr
  return run.exitCode.getD 0
