/-
LayeredSettings/Main.lean

The program: hands the arguments, the variables of the process and the file that
they name to the command line, and prints what it says.  The output goes to
standard output, everything else to standard error.
-/
import LayeredSettings.Console

namespace LayeredSettings

namespace Program

/-- The variables of a block of bytes in which each ends with a null; those that are not text are
left out. -/
def environmentOfBytes (bytes : ByteArray) : Environment :=
  let pieces := bytes.toList.splitBy fun a b => a != 0 && b != 0
  pieces.filterMap fun piece => do
    let text ← String.fromUTF8? (ByteArray.mk (piece.filter (· != 0)).toArray)
    match Text.pieces ['='] text.toList with
    | name :: value :: more =>
        some (String.ofList name, String.ofList (Text.joined ['='] (value :: more)))
    | _ => none

/-- The fault that an error of the system stands for. -/
def faultOf : IO.Error → FileFault
  | .noFileOrDirectory _ _ _ => .missing
  | .inappropriateType _ code _ => if code = 20 then .notDirectory else .isDirectory
  | .invalidArgument _ _ _ => .nameTooLong
  | _ => .denied

/-- What reading a file gives. -/
def fileAt (path : String) : IO (Except FileFault (List Nat)) := do
  try
    let bytes ← IO.FS.readBinFile path
    return .ok (bytes.toList.map UInt8.toNat)
  catch e => return .error (faultOf e)

/-- The variables of the process. -/
def environment : IO Environment := do
  try return environmentOfBytes (← IO.FS.readBinFile "/proc/self/environ")
  catch _ => return []

/-- The file that the variables name; no other one is read. -/
def filesFor (process : Environment) : IO Files := do
  match (Source.ofEnvironment process Source.defaultPath).outcome with
  | .ok source =>
      let content ← fileAt source.path
      return fun _ => content
  | .error _ => return fun _ => .error .missing

/-- An event on one line. -/
def eventLine (e : Log.Event) : String :=
  " ".intercalate (("[" ++ e.severity.name ++ "] " ++ e.name) ::
    e.fields.map fun (key, v) => key ++ "=" ++ v.literal)

/-- Runs the program on some arguments and gives its status. -/
def run (arguments : List String) : IO UInt32 := do
  let process ← environment
  let output := Console.run (← filesFor process) process arguments
  let sink := Console.logSink arguments
  for e in output.events do
    if sink.admits e.severity.level then IO.eprintln (eventLine e)
  if output.usage then
    for line in Console.usageLines do
      if output.status = 0 then IO.println line else IO.eprintln line
  match output.crash with
  | some c => IO.eprintln c.message
  | none => IO.print output.text
  return output.status.toUInt32

end Program

end LayeredSettings

/-- Runs the program on the arguments of the process. -/
def main (arguments : List String) : IO UInt32 := LayeredSettings.Program.run arguments
