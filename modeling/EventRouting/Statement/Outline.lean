import EventRouting.Statement.Canonical

set_option autoImplicit false

namespace EventRouting.Expr

def label : Expr → String
  | .float x => "Float " ++ x.toText
  | .integer n => "Integer " ++ Text.ofInt n.toInt
  | .string s => "String " ++ String.ofList (stringText s)
  | .boolean b => "Boolean " ++ String.ofList (booleanText b)
  | .null => "Null"
  | .pointer p => "Pointer " ++ p.toText
  | .list items => "List (" ++ Text.digits 10 items.length ++ ")"
  | .not _ => "Not"
  | .binary op _ _ => "BinaryOp " ++ op.symbol

def outlineLine (level : Nat) (e : Expr) : List Char :=
  List.replicate (2 * level) ' ' ++ e.label.toList ++ ['\n']

mutual

def outlineChars (level : Nat) : Expr → List Char
  | .list items => outlineLine level (.list items) ++ outlineItems (level + 1) items
  | .not operand => outlineLine level (.not operand) ++ outlineChars (level + 1) operand
  | .binary op left right =>
    outlineLine level (.binary op left right) ++ outlineChars (level + 1) left
      ++ outlineChars (level + 1) right
  | leaf => outlineLine level leaf

def outlineItems (level : Nat) : List Expr → List Char
  | [] => []
  | item :: rest => outlineChars level item ++ outlineItems level rest

end

def toOutline (e : Expr) : String := String.ofList (e.outlineChars 0)

end EventRouting.Expr
