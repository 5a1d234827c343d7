import EventRouting.Command.Run
import EventRouting.Pattern.Search
import EventRouting.Routing.RouteFile

set_option autoImplicit false

namespace EventRouting

def ReadFault.ofCode (code : UInt32) (details : String) : ReadFault :=
  .other (details.capitalize ++ " (os error " ++ toString (min code (0 - code)) ++ ")")

def ReadFault.ofError : IO.Error → ReadFault
  | .noFileOrDirectory _ _ _ => .notFound
  | .inappropriateType _ 21 _ => .isDirectory
  | .otherError code details
  | .permissionDenied _ code details
  | .inappropriateType _ code details
  | .invalidArgument _ code details
  | .resourceExhausted _ code details => .ofCode code details
  | e => .other (toString e)

namespace Command

def readText (action : IO ByteArray) : IO (Except ReadFault String) := do
  try
    match String.fromUTF8? (← action) with
    | some text => return .ok text
    | none => return .error .invalidUtf8
  catch e => return .error (ReadFault.ofError e)

def readStdin : IO (Option (Except ReadFault String)) := do
  let stdin ← IO.getStdin
  if ← stdin.isTty then return none
  else return some (← readText stdin.readBinToEnd)

/-- What an invocation reads. The standard input is left alone if the route file cannot be
read. -/
def worldOf (invocation : Invocation) : IO World := do
  let file ← match invocation.routeFile? with
    | some path => readText (IO.FS.readBinFile path)
    | none => pure (.ok "")
  let stdin ← if invocation.readsStdin && file.isOk then readStdin else pure none
  return ⟨stdin, fun _ => file⟩

def worldFor (args : List String) : IO World :=
  match Invocation.ofArguments args with
  | some invocation => worldOf invocation
  | none => return ⟨none, fun _ => .error .notFound⟩

end Command
end EventRouting

def main (args : List String) : IO UInt32 := do
  let world ← EventRouting.Command.worldFor args
  match EventRouting.Command.run? EventRouting.Pattern.engine EventRouting.Json.reader world
      args with
  | some output =>
    IO.print output.stdout
    IO.eprint output.stderr
    return output.exit.toUInt32
  | none => return 101
