import EventRouting.Evaluation.Error
import EventRouting.Routing.Router

set_option autoImplicit false

namespace EventRouting

inductive ReadFault
  | notFound
  | isDirectory
  | invalidUtf8
  | other (text : String)
deriving DecidableEq

def ReadFault.message : ReadFault → String
  | .notFound => "No such file or directory (os error 2)"
  | .isDirectory => "Is a directory (os error 21)"
  | .invalidUtf8 => "stream did not contain valid UTF-8"
  | .other text => text

inductive CommandError
  | compile (error : CompileError)
  | eval (error : EvalError)
  | router (error : RouterError)
  | json (message : String)
  | io (fault : ReadFault)
  | noInput
  | unknownCategory (name : String)
deriving DecidableEq

def CommandError.message? : CommandError → Option String
  | .compile e => e.message?.map ("Compile error: " ++ ·)
  | .eval e => some ("Evaluation error: " ++ e.message)
  | .router e => e.message?.map ("Router error: " ++ ·)
  | .json message => some ("Invalid JSON: " ++ message)
  | .io fault => some ("IO error: " ++ fault.message)
  | .noInput => some "No input provided. Use --input or pipe JSON to stdin."
  | .unknownCategory name =>
    some ("Unknown category: '" ++ name ++ "'\nRun 'prepper docs' to see available categories.")

end EventRouting
