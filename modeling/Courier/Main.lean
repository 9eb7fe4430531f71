import Courier.CommandLine.Help
import Courier.Program
import Std.Time.Format

/-! The command line on a host. What a run may look at is read first, the run is worked out on it,
and what it leaves is written back. No server is reached: requests meet the unreachable network.
-/

namespace Courier.Host

/-- A variable as a process keeps it: its name, an equals sign and its value. -/
def splitEntry? (entry : List UInt8) : Option (String × List UInt8) :=
  match entry.span (· != 0x3D) with
  | (name, _ :: value) => (Text.Utf8.text? name).map fun name => (name, value)
  | _ => none

/-- The variables of octets in which each variable ends with a zero. -/
def variablesOf (octets : List UInt8) : Config.Variables :=
  let (entry, entries) := octets.foldr
    (fun octet (entry, entries) =>
      if octet == 0 then ([], entry :: entries) else (octet :: entry, entries))
    ([], [])
  (entry :: entries).filterMap splitEntry?

/-- The texts in an argument that may be the path of a file. -/
def pathsOf (argument : String) : List String :=
  match argument.toList with
  | '-' :: '-' :: body => [String.ofList ((body.dropWhile (· != '=')).drop 1)]
  | '-' :: letters =>
    (List.range letters.length).map fun count => String.ofList (letters.drop count)
  | _ => [argument]

/-- The paths that the loading of settings may look at. -/
def configPaths (line : CommandLine) (vars : Config.Variables) : List String :=
  match line.loader vars with
  | .error _ => []
  | .ok loader => loader.sources.flatMap fun source => [source.path, source.path ++ ".toml"]

/-- The path of the log's file, if the settings ask for one. -/
def logPath? (line : CommandLine) (vars : Config.Variables) (disk : Disk) : Option String :=
  match line.settings vars disk with
  | .error _ => none
  | .ok settings =>
    match settings.logger.setup with
    | .error _ => none
    | .ok setup => setup.file.map (·.path)

def mount (disk : Disk) (path : String) : IO Disk := do
  if disk.hasPath path then return disk
  let mounted ← match ← (IO.FS.readBinFile path).toBaseIO with
    | .ok octets => pure (disk.addFile path octets.toList)
    | .error (.inappropriateType ..) => pure (disk.makeDirectories path)
    | .error _ => pure (.ok disk)
  return (mounted.toOption).getD disk

/-- Writes a file of the disk to the host, if a path leads to one. -/
def save (disk : Disk) (path : String) : IO Unit := do
  match disk.read path with
  | .error _ => return ()
  | .ok octets =>
    IO.FS.createDirAll ((Disk.parent? path).getD "")
    IO.FS.writeBinFile path (ByteArray.mk octets.toArray)

/-- The time now, as log lines show it. -/
def stamp : IO String := do
  let time ← Std.Time.Timestamp.now
  return (Std.Time.DateTime.ofTimestampWithZone time .UTC).format "uuuu-MM-dd'T'HH:mm:ss.SSSSSS'Z'"

def carryOut (line : CommandLine) (vars : Config.Variables) (disk : Disk) : IO UInt32 := do
  let disk ← (configPaths line vars).foldlM mount disk
  let log := logPath? line vars disk
  let disk ← log.toList.foldlM mount disk
  let result := Program.run line vars disk Http.Network.unreachable (← stamp)
  IO.print result.stdout
  IO.eprint result.stderr
  for path in log.toList.filter result.disk.isFile do
    save result.disk path
  return UInt32.ofNat result.exitCode

/-- Says why arguments are no command. -/
def refuse (fault : CommandLine.UsageFault) : IO UInt32 := do
  if fault.exitCode == 0 then IO.print fault.text else IO.eprint fault.text
  return UInt32.ofNat fault.exitCode

end Courier.Host

open Courier Courier.Host in
def main (args : List String) : IO UInt32 := do
  let octets ← (IO.FS.readBinFile "/proc/self/environ").toBaseIO
  let vars := variablesOf ((octets.toOption).getD ByteArray.empty).toList
  let disk ← (args.flatMap pathsOf).foldlM mount Disk.start
  match CommandLine.parse disk (CommandLine.programName :: args) with
  | .error fault => refuse fault
  | .ok line => carryOut line vars disk
