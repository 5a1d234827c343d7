import EventRouting.Routing.JsonReader
import EventRouting.Text.Lines

set_option autoImplicit false

namespace EventRouting.Records

def ofArray (reader : JsonReader) (text : String) : Except String (List Event) :=
  (reader.values text).map (·.map Event.ofJson)

def ofLines (reader : JsonReader) (text : String) : Except String (List Event) :=
  ((Text.lines text).filter fun line => !Text.isBlankLine line).mapM reader.event

def parse (reader : JsonReader) (text : String) : Except String (List Event) :=
  let trimmed := Text.dropBlanks text
  if ['['].isPrefixOf trimmed.toList then ofArray reader trimmed else ofLines reader text

theorem parse_eq_ofLines {reader : JsonReader} {text : String}
    (h : (Text.dropBlanks text).toList.head? ≠ some '[') :
    parse reader text = ofLines reader text := by
  have hprefix : ['['].isPrefixOf (Text.dropBlanks text).toList = false := by
    cases hchars : (Text.dropBlanks text).toList with
    | nil => rfl
    | cons c rest =>
      rw [hchars, List.head?_cons, ne_eq, Option.some.injEq] at h
      simp [List.isPrefixOf, Ne.symm h]
  rw [parse, hprefix]
  rfl

end EventRouting.Records
