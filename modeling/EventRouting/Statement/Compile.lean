import EventRouting.Statement.Canonical
import EventRouting.Statement.Parse
import EventRouting.Statement.Scan

set_option autoImplicit false

namespace EventRouting

inductive CompileFault
  | lex (error : LexError)
  | parse (error : ParseError)
deriving DecidableEq

namespace CompileFault

def position : CompileFault → Position
  | .lex e => e.position
  | .parse e => e.position

def message : CompileFault → String
  | .lex e => e.message
  | .parse e => e.message

end CompileFault

structure CompileError where
  statement : String
  fault : CompileFault
deriving DecidableEq

namespace CompileError

def position (e : CompileError) : Position := e.fault.position

def message? (e : CompileError) : Option String :=
  (e.position.caret? e.statement).map (e.fault.message ++ ·)

end CompileError

structure Statement where
  text : String
  expr : Expr
deriving Inhabited

namespace Statement

def exprOf (text : String) : Except CompileFault Expr :=
  match tokenize text with
  | .error e => .error (.lex e)
  | .ok tokens => (parse tokens).mapError .parse

def compile (text : String) : Except CompileError Statement :=
  match exprOf text with
  | .error fault => .error ⟨text, fault⟩
  | .ok expr => .ok ⟨text, expr⟩

def same (s t : Statement) : Bool := s.text = t.text && s.expr.same t.expr

end Statement
end EventRouting
