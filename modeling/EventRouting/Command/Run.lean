import EventRouting.Command.Arguments
import EventRouting.Command.Check
import EventRouting.Command.Docs
import EventRouting.Command.Route

set_option autoImplicit false

namespace EventRouting.Command

inductive Invocation
  | check (statement : String) (input : Option String) (pretty syntaxOnly tree : Bool)
  | route (routes : String) (input : Option String) (pretty : Bool)
  | docs
  | doc (category : String)
  | version
deriving DecidableEq

/-- What the program can read. A terminal is no standard input. -/
structure World where
  stdin : Option (Except ReadFault String)
  file : String → Except ReadFault String

structure Output where
  exit : Nat
  stdout : String
  stderr : String
deriving DecidableEq

namespace Invocation

open Arguments (OptionSpec)

def inputOption : OptionSpec := ⟨"input", some 'i', true⟩

def prettyOption : OptionSpec := ⟨"pretty", some 'p', false⟩

def ofCheck (args : List String) : Option Invocation := do
  let specs := [inputOption, prettyOption, ⟨"syntax-only", none, false⟩, ⟨"tree", none, false⟩]
  let p ← Arguments.parse specs args
  match p.positional with
  | [statement] =>
    some (.check statement (p.value? "input") (p.has "pretty") (p.has "syntax-only") (p.has "tree"))
  | _ => none

def ofRoute (args : List String) : Option Invocation := do
  let p ← Arguments.parse [⟨"routes", some 'r', true⟩, inputOption, prettyOption] args
  match p.positional with
  | [] => some (.route (← p.value? "routes") (p.value? "input") (p.has "pretty"))
  | _ => none

def ofDoc (args : List String) : Option Invocation := do
  let p ← Arguments.parse [] args
  match p.positional with
  | [category] => some (.doc category)
  | _ => none

def ofDocs (args : List String) : Option Invocation := do
  let p ← Arguments.parse [] args
  if p.positional.isEmpty then some .docs else none

def ofArguments : List String → Option Invocation
  | "check" :: args => ofCheck args
  | "route" :: args => ofRoute args
  | "docs" :: args => ofDocs args
  | "doc" :: args => ofDoc args
  | "--version" :: _ | "-V" :: _ => some .version
  | _ => none

def routeFile? : Invocation → Option String
  | .route path _ _ => some path
  | _ => none

def readsStdin : Invocation → Bool
  | .check _ none _ false _ | .route _ none _ => true
  | _ => false

end Invocation

def readInput (world : World) (input : Option String) : Except CommandError (Option String) :=
  match input, world.stdin with
  | some text, _ => .ok (some text)
  | none, some (.ok text) => .ok (some text)
  | none, some (.error fault) => .error (.io fault)
  | none, none => .ok none

def jsonLine (pretty : Bool) (j : Json) : String :=
  (if pretty then j.indented else j.compact) ++ "\n"

def versionText : String := "prepper 0.2.0\n"

def Invocation.execute (engine : PatternEngine) (reader : JsonReader) (world : World) :
    Invocation → Except CommandError String
  | .check statement input pretty syntaxOnly tree => do
    let input ← if syntaxOnly then pure input else readInput world input
    match ← executeCheck engine reader ⟨statement, input, syntaxOnly, tree⟩ with
    | .syntaxValid tree => return tree.getD "" ++ "Syntax is valid\n"
    | .success result tree => return tree.getD "" ++ jsonLine pretty result
  | .route path input pretty => do
    let routes ← (world.file path).mapError .io
    let input ← readInput world input
    return jsonLine pretty (← executeRoute engine reader ⟨routes, input⟩)
  | .docs => return Docs.overview
  | .doc category =>
    match Docs.Category.named? category with
    | some c => return c.text
    | none => throw (.unknownCategory category)
  | .version => return versionText

/-- The output of the program, unless it stops at an error that cannot be written. -/
def run? (engine : PatternEngine) (reader : JsonReader) (world : World) (args : List String) :
    Option Output :=
  match Invocation.ofArguments args with
  | none => some ⟨2, "", ""⟩
  | some invocation =>
    match invocation.execute engine reader world with
    | .ok text => some ⟨0, text, ""⟩
    | .error e => e.message?.map fun message => ⟨1, "", message ++ "\n"⟩

end EventRouting.Command
