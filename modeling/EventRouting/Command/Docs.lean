set_option autoImplicit false

namespace EventRouting.Docs

inductive Category
  | syntaxRules
  | operators
  | types
  | routing
deriving DecidableEq, Repr

/-- The category with a name, in whatever case it is written. None of the names holds a letter
that is the lower case of a character outside ASCII. -/
def Category.named? (name : String) : Option Category :=
  match String.ofList (name.toList.map Char.toLower) with
  | "syntax" | "pointers" => some .syntaxRules
  | "operators" | "ops" => some .operators
  | "types" | "type" => some .types
  | "routing" | "routes" | "route" => some .routing
  | _ => none

def overview : String := "PREPPER EXPRESSION DOCUMENTATION

Statements are conditions evaluated against one event at a time. Fields are
addressed with JSON pointers; the result decides which routes get the event.

CATEGORIES
  syntax      Literals, JSON pointers and lists
  operators   Comparison, regex, membership and logical operators
  types       How values are compared and coerced
  routing     Route files and fan-out

QUICK REFERENCE
  /field/nested         Field reference (missing fields read as null)
  \"/odd key/x\"          Quoted field reference
  == != < <= > >=       Comparison
  =~ !~                 Regex match
  in  not in            List membership
  and or not            Logic (short-circuiting)

Run 'prepper doc <category>' for detailed documentation.
"

def syntaxText : String := "SYNTAX - Literals, Pointers and Lists

LITERALS
  42  -7              Integers
  3.14  1e10          Floats
  \"text\"              Strings; escapes \\\" \\\\ \\/ \\n \\t \\r
  true  false         Booleans (lowercase only)
  null                Null

JSON POINTERS
  /status
  /people/1/name
    Walk objects by key and arrays by index.

    Example:
      Input:     \x7b\"people\": [\x7b\"name\": \"ada\"\x7d, \x7b\"name\": \"grace\"\x7d]\x7d
      Statement: /people/1/name == \"grace\"
      Output:    true

  \"/key with spaces/x\"
    Quoted form. Inside it, \\/ is a slash that belongs to the key.

    Constraints:
      - A quoted literal starting with / is always a pointer; write \"\\/...\"
        for a string that starts with a slash
      - A missing field reads as null

LISTS
  [1, 2, 3]
  []
  [/a, \"b\", 3.5]
    Elements may be any expression and may mix types.

GROUPING
  (/a == 1) or (/b == 2)
"

def operatorsText : String := "OPERATORS

PRECEDENCE (loosest first)
  or
  and
  not
  ==  !=  =~  !~
  <  <=  >  >=
  in  not in

  Operators at the same level group left to right.

EQUALITY
  /status == 200
  /status != 200
    Integers and floats compare by value: 5 == 5.0 is true.
    Strings never equal numbers: \"5\" == 5 is false.

RELATIONAL
  /latency > 2.5
    Both sides must be numbers.

REGEX
  /name =~ \"^svc-\"
  /name !~ \"^db-\"
    Left side must be a string, right side a valid pattern.

MEMBERSHIP
  /status in [200, 201, 204]
  /region not in [\"us-east-1\"]
    Right side must be a list.

LOGIC
  /a == 1 and /b == 2
  /a == 1 or /b == 2
  not /enabled
    Operands must be booleans. `and` skips its right side when the left is
    false; `or` skips it when the left is true.
"

def typesText : String := "TYPES

  null      Also what a missing field reads as
  boolean   true, false
  integer   64-bit signed
  float     64-bit
  string    UTF-8
  list      Ordered, mixed types allowed
  object    Only reachable through event fields

COERCION
  No implicit conversions happen between strings, numbers and booleans.
  An operator given the wrong types fails that evaluation only; the
  statement stays valid for other events.

  /missing == 5       false
  /missing == null    true
  /missing > 5        error: comparison requires numeric types
"

def routingText : String := "ROUTING

ROUTE FILE
  \x7b\"routes\": [
    \x7b\"name\": \"ok\",  \"condition\": \"/status == 200\"\x7d,
    \x7b\"name\": \"err\", \"condition\": \"/status >= 400\"\x7d
  ]\x7d

RUN
  prepper route --routes routes.json --input records.ndjson

    Records are read one JSON object per line (or as one JSON array).

FAN-OUT
  A record goes to every route whose condition is true, so it may appear
  in several groups or in none. Groups keep the input order.

FAILURES
  A condition that fails for a record (for example a type error) leaves
  the record out of that route only. The failure is logged and listed in
  the \"failures\" section of the output.
"

def Category.text : Category → String
  | .syntaxRules => syntaxText
  | .operators => operatorsText
  | .types => typesText
  | .routing => routingText

end EventRouting.Docs
