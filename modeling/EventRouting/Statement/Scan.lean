import EventRouting.Statement.Token

set_option autoImplicit false

namespace EventRouting

inductive LexError
  | unrecognized (text : String) (position : Position)
  | unterminatedString (position : Position)
  | invalidNumber (text : String) (position : Position)
deriving DecidableEq

namespace LexError

def position : LexError → Position
  | .unrecognized _ p => p
  | .unterminatedString p => p
  | .invalidNumber _ p => p

def message : LexError → String
  | .unrecognized text p => "Unrecognized input '" ++ text ++ "' at " ++ p.toText
  | .unterminatedString p =>
    "Unterminated string starting at " ++ p.toText ++ ": missing closing quote"
  | .invalidNumber text p => "Invalid number '" ++ text ++ "' at " ++ p.toText

end LexError

namespace Scan

structure Outcome where
  result : Except LexError Token
  lexeme : List Char

def symbol? : Char → List Char → Option (Token × Nat)
  | '=', '=' :: _ => some (.equal, 2)
  | '=', '~' :: _ => some (.matches, 2)
  | '!', '=' :: _ => some (.notEqual, 2)
  | '!', '~' :: _ => some (.notMatches, 2)
  | '<', '=' :: _ => some (.lessEqual, 2)
  | '<', _ => some (.less, 1)
  | '>', '=' :: _ => some (.greaterEqual, 2)
  | '>', _ => some (.greater, 1)
  | '(', _ => some (.leftParen, 1)
  | ')', _ => some (.rightParen, 1)
  | '[', _ => some (.leftBracket, 1)
  | ']', _ => some (.rightBracket, 1)
  | ',', _ => some (.comma, 1)
  | _, _ => none

def isPointerChar (c : Char) : Bool := c = '/' || Pointer.isBareChar c

/-- The characters up to the closing quote, if there is one. A backslash takes the next
character with it. -/
def quotedBody : List Char → Option (List Char)
  | [] => none
  | ['\\'] => none
  | '\\' :: c :: rest => (quotedBody rest).map fun body => '\\' :: c :: body
  | c :: rest => if c = '"' then some [] else (quotedBody rest).map (c :: ·)

/-- What an escaped character stands for; an unknown escape keeps its backslash. -/
def unescapeChar (c : Char) : List Char :=
  match c with
  | '"' => ['"']
  | '\\' => ['\\']
  | '/' => ['/']
  | 'n' => ['\n']
  | 't' => ['\t']
  | 'r' => ['\r']
  | _ => ['\\', c]

def unescape : List Char → List Char
  | [] => []
  | ['\\'] => ['\\']
  | '\\' :: c :: rest => unescapeChar c ++ unescape rest
  | c :: rest => c :: unescape rest

/-- A quoted body that starts with a slash is a pointer, any other a string. -/
def quotedToken (body : List Char) : Token :=
  match Pointer.ofEscaped body with
  | .ok p => .pointer p
  | .error _ => .string (String.ofList (unescape body))

def quoted (p : Position) (cs : List Char) : Outcome :=
  match quotedBody cs with
  | some body => ⟨.ok (quotedToken body), '"' :: (body ++ ['"'])⟩
  | none => ⟨.error (.unterminatedString p), '"' :: cs⟩

/-- An integer literal must fit 64 bits, and any other must round to a finite number. -/
def numberToken? (l : Decimal.Literal) : Option Token :=
  if l.isInteger then (Int64.ofInt? l.integer).map .integer
  else if l.toBinary64.isFinite then some (.float l.toBinary64) else none

def number (p : Position) (l : Decimal.Literal) : Outcome :=
  match numberToken? l with
  | some t => ⟨.ok t, l.text⟩
  | none => ⟨.error (.invalidNumber (String.ofList l.text) p), l.text⟩

def isWordChar (c : Char) : Bool := Text.isAlphanumeric c || c = '_'

def isWordStart (c : Char) : Bool := Text.isAlphabetic c || c = '_'

def wordToken (word : List Char) : Token :=
  match String.ofList word with
  | "and" => .and
  | "or" => .or
  | "not" => .not
  | "in" => .member
  | "true" => .boolean true
  | "false" => .boolean false
  | "null" => .null
  | text => .invalid text

def token (p : Position) (c : Char) (cs : List Char) : Outcome :=
  match symbol? c cs with
  | some (t, length) => ⟨.ok t, (c :: cs).take length⟩
  | none =>
    if c = '/' then
      let body := cs.takeWhile isPointerChar
      ⟨.ok (.pointer (Pointer.ofBare body)), c :: body⟩
    else if c = '"' then quoted p cs
    else match Decimal.Literal.scan (c :: cs) with
      | some l => number p l
      | none =>
        if isWordStart c then
          let word := c :: cs.takeWhile isWordChar
          ⟨.ok (wordToken word), word⟩
        else ⟨.ok (.invalid (String.singleton c)), [c]⟩

end Scan

structure Source where
  rest : List Char
  position : Position
deriving DecidableEq

namespace Source

def ofText (text : String) : Source := ⟨text.toList, .start⟩

def advance (s : Source) (cs : List Char) : Source :=
  ⟨s.rest.drop cs.length, s.position.after cs⟩

def skipBlanks (s : Source) : Source := s.advance (s.rest.takeWhile Text.isBlank)

def step? (s : Source) : Option (Except LexError Placed × Source) :=
  let s := s.skipBlanks
  match s.rest with
  | [] => none
  | c :: cs =>
    let outcome := Scan.token s.position c cs
    some (outcome.result.map (⟨·, s.position⟩), s.advance outcome.lexeme)

def endToken (s : Source) : Placed := ⟨.eof, s.skipBlanks.position⟩

/-- The next token or fault; at the end of the text the end token, time and again. -/
def next (s : Source) : Except LexError Placed × Source :=
  s.step?.getD (.ok s.endToken, s.skipBlanks)

end Source

namespace Scan

theorem symbol?_length_pos {c : Char} {cs : List Char} {t : Token} {n : Nat}
    (h : symbol? c cs = some (t, n)) : 0 < n := by
  unfold symbol? at h
  split at h <;> simp at h <;> omega

theorem lexeme_ne_nil (p : Position) (c : Char) (cs : List Char) :
    (token p c cs).lexeme ≠ [] := by
  unfold token
  split
  · rename_i h
    have := symbol?_length_pos h
    simp
    omega
  · split
    · simp
    · split
      · unfold quoted
        split <;> simp
      · split
        · rename_i h
          have := Decimal.Literal.text_ne_nil_of_scan h
          unfold number
          split <;> simpa using this
        · split <;> simp

end Scan

namespace Source

theorem advance_rest_length (s : Source) (cs : List Char) :
    (s.advance cs).rest.length = s.rest.length - cs.length := by
  simp [advance]

theorem step?_rest_length {s s' : Source} {r : Except LexError Placed}
    (h : s.step? = some (r, s')) : s'.rest.length < s.rest.length := by
  unfold step? at h
  simp only at h
  split at h
  · simp at h
  · rename_i c cs hc
    simp only [Option.some.injEq, Prod.mk.injEq] at h
    obtain ⟨_, rfl⟩ := h
    have hpos := List.length_pos_iff.2 (Scan.lexeme_ne_nil s.skipBlanks.position c cs)
    have hle : s.skipBlanks.rest.length ≤ s.rest.length := by
      simp [skipBlanks, advance_rest_length]
    have hlt : 0 < s.skipBlanks.rest.length := by simp [hc]
    rw [advance_rest_length]
    omega

def tokens (s : Source) : Except LexError (List Placed) :=
  match _h : s.step? with
  | none => .ok [s.endToken]
  | some (.error e, _) => .error e
  | some (.ok t, s') =>
    match t.token with
    | .invalid text => .error (.unrecognized text t.position)
    | _ => (tokens s').map (t :: ·)
termination_by s.rest.length
decreasing_by exact step?_rest_length _h

end Source

def tokenize (text : String) : Except LexError (List Placed) := (Source.ofText text).tokens

end EventRouting
