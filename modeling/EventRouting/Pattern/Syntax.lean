import EventRouting.Pattern.Fault

set_option autoImplicit false

namespace EventRouting.Pattern

inductive Assertion
  | lineStart
  | lineEnd
  | textStart
  | textEnd
  | wordBoundary
  | notWordBoundary
  | wordStart
  | wordEnd
  | wordStartHalf
  | wordEndHalf
deriving DecidableEq, Repr

/-- A character, and whether it is written as two hexadecimal digits, which outside Unicode
mode stand for a byte. -/
structure Literal where
  char : Char
  asByte : Bool
deriving DecidableEq, Repr

inductive LetterClass
  | digit
  | space
  | word
deriving DecidableEq, Repr

inductive AsciiClass
  | alnum
  | alpha
  | ascii
  | blank
  | cntrl
  | digit
  | graph
  | lower
  | print
  | punct
  | space
  | upper
  | word
  | xdigit
deriving DecidableEq, Repr

inductive PropertyName
  | named (name : String)
  | valued (property value : String)
deriving DecidableEq, Repr

inductive Primitive
  | literal (l : Literal)
  | assertion (a : Assertion)
  | dot
  | letterClass (kind : LetterClass) (negated : Bool)
  | property (name : PropertyName) (negated : Bool)
deriving DecidableEq, Repr

inductive SetOperator
  | intersection
  | difference
  | symmetricDifference
deriving DecidableEq, Repr

mutual

inductive ClassItem
  | literal (l : Literal)
  | range (first last : Literal)
  | ascii (kind : AsciiClass) (negated : Bool)
  | letterClass (kind : LetterClass) (negated : Bool)
  | property (name : PropertyName) (negated : Bool)
  | nested (negated : Bool) (content : ClassContent)

inductive ClassContent
  | items (items : List ClassItem)
  | operation (op : SetOperator) (left right : ClassContent)

end

instance : Inhabited ClassContent := ⟨.items []⟩

inductive Flag
  | caseInsensitive
  | multiLine
  | dotAll
  | swapGreed
  | unicode
  | carriageReturn
  | verbose
deriving DecidableEq, Repr

abbrev FlagSettings := List (Flag × Bool)

inductive Tree
  | empty
  | flags (settings : FlagSettings)
  | primitive (p : Primitive)
  | bracketed (negated : Bool) (content : ClassContent)
  | repetition (body : Tree) (least : Nat) (greatest : Option Nat)
  | group (settings : FlagSettings) (body : Tree)
  | alternation (branches : List Tree)
  | concat (parts : List Tree)
deriving Inhabited

namespace Tree

def ofParts : List Tree → Tree
  | [] => .empty
  | [part] => part
  | parts => .concat parts

end Tree

mutual

def ClassItem.height : ClassItem → Nat
  | .nested _ content => content.height + 1
  | _ => 0

def ClassContent.height : ClassContent → Nat
  | .items items => itemsHeight items + (if 2 ≤ items.length then 1 else 0)
  | .operation _ left right => max left.height right.height + 1

def itemsHeight : List ClassItem → Nat
  | [] => 0
  | item :: rest => max item.height (itemsHeight rest)

end

mutual

def Tree.height : Tree → Nat
  | .empty => 0
  | .flags _ => 0
  | .primitive _ => 0
  | .bracketed _ content => content.height + 1
  | .repetition body _ _ => body.height + 1
  | .group _ body => body.height + 1
  | .alternation branches => treesHeight branches + 1
  | .concat parts => treesHeight parts + 1

def treesHeight : List Tree → Nat
  | [] => 0
  | t :: rest => max t.height (treesHeight rest)

end

end EventRouting.Pattern
