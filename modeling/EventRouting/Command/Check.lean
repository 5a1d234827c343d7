import EventRouting.Command.Error
import EventRouting.Routing.JsonReader
import EventRouting.Statement.Outline

set_option autoImplicit false

namespace EventRouting

structure CheckOptions where
  statement : String
  /-- The event as a JSON text. -/
  input : Option String
  /-- Whether to stop behind compilation. -/
  syntaxOnly : Bool
  /-- Whether to add the outline of the expression. -/
  tree : Bool

inductive CheckResult
  | syntaxValid (tree : Option String)
  | success (result : Json) (tree : Option String)

def executeCheck (engine : PatternEngine) (reader : JsonReader) (options : CheckOptions) :
    Except CommandError CheckResult := do
  let statement ← (Statement.compile options.statement).mapError .compile
  let tree := if options.tree then some statement.expr.toOutline else none
  if options.syntaxOnly then return .syntaxValid tree
  else
    match options.input with
    | none => throw .noInput
    | some text =>
      let event ← (reader.event text).mapError .json
      let ev : Evaluator engine := .new
      let (result, _) := ev.evaluate statement.expr event
      let value ← result.mapError .eval
      return .success value.toJson tree

end EventRouting
