import EventRouting.Pattern.Syntax
import EventRouting.Text.Age
import EventRouting.Text.BinaryProperty
import EventRouting.Text.CaseFolding
import EventRouting.Text.GraphemeBreak
import EventRouting.Text.Script
import EventRouting.Text.SentenceBreak

set_option autoImplicit false

namespace EventRouting.Pattern

def LetterClass.ascii : LetterClass → CharSet
  | .digit => CharSet.ofText "30-39"
  | .space => CharSet.ofText "9-D 20"
  | .word => CharSet.ofText "30-39 41-5A 5F 61-7A"

def wordCharacters : CharSet :=
  (BinaryProperty.storedSet "alphabetic").union <|
    (GeneralCategory.union [.nonspacingMark, .spacingMark, .enclosingMark, .decimalNumber,
      .connectorPunctuation]).union (BinaryProperty.storedSet "joincontrol")

def LetterClass.unicode : LetterClass → CharSet
  | .digit => GeneralCategory.union [.decimalNumber]
  | .space => CharSet.whiteSpace
  | .word => wordCharacters

def AsciiClass.characters : AsciiClass → CharSet
  | .alnum => CharSet.ofText "30-39 41-5A 61-7A"
  | .alpha => CharSet.ofText "41-5A 61-7A"
  | .ascii => CharSet.ofText "0-7F"
  | .blank => CharSet.ofText "9 20"
  | .cntrl => CharSet.ofText "0-1F 7F"
  | .digit => CharSet.ofText "30-39"
  | .graph => CharSet.ofText "21-7E"
  | .lower => CharSet.ofText "61-7A"
  | .print => CharSet.ofText "20-7E"
  | .punct => CharSet.ofText "21-2F 3A-40 5B-60 7B-7E"
  | .space => CharSet.ofText "9-D 20"
  | .upper => CharSet.ofText "41-5A"
  | .word => CharSet.ofText "30-39 41-5A 5F 61-7A"
  | .xdigit => CharSet.ofText "30-39 41-46 61-66"

/-- A name without what its spelling may vary in. The name `isc` is left whole. -/
def looseName (name : String) : String :=
  let hasIs := match name.toList with
    | i :: s :: _ => (i = 'i' || i = 'I') && (s = 's' || s = 'S')
    | _ => false
  let kept := (if hasIs then name.toList.drop 2 else name.toList).filter fun c =>
    c != ' ' && c != '_' && c != '-' && Text.isAscii c
  let lower := String.ofList (kept.map Char.toLower)
  if hasIs && lower = "c" then "isc" else lower

def categorySet? (name : String) : Option CharSet :=
  match name with
  | "any" => some CharSet.full
  | "ascii" => some (CharSet.ofText "0-7F")
  | _ => (GeneralCategory.named? name).map GeneralCategory.union

/-- The characters of a property. A name alone is a binary property, a general category or a
script, in this order, but `cf`, `sc` and `lc` are general categories. -/
def PropertyName.characters? : PropertyName → Option CharSet
  | .named name =>
    let name := looseName name
    let binary :=
      if name = "cf" ∨ name = "sc" ∨ name = "lc" then none else BinaryProperty.named? name
    binary.or ((categorySet? name).or ((Script.named? name).map Script.characters))
  | .valued property value =>
    let value := looseName value
    match looseName property with
    | "generalcategory" | "gc" => categorySet? value
    | "script" | "sc" => (Script.named? value).map Script.characters
    | "scriptextensions" | "scx" => (Script.named? value).map Script.extended
    | "age" => (Age.named? value).map Age.characters
    | "graphemeclusterbreak" | "gcb" =>
      (GraphemeBreak.named? value).map GraphemeBreak.characters
    | "wordbreak" | "wb" => (WordBreak.named? value).map WordBreak.characters
    | "sentencebreak" | "sb" => (SentenceBreak.named? value).map SentenceBreak.characters
    | _ => none

def foldAscii (s : CharSet) : CharSet :=
  let letters := "abcdefghijklmnopqrstuvwxyz".toList.filter fun c =>
    s.contains c || s.contains c.toUpper
  s.union (CharSet.ofList (letters ++ letters.map Char.toUpper))

def foldUnicode (s : CharSet) : CharSet :=
  let touched := CaseFolding.orbits.filter fun orbit =>
    orbit.any fun n => s.intervals.any fun (first, last) => first ≤ n && n ≤ last
  ⟨s.intervals ++ touched.flatMap fun orbit => orbit.map fun n => (n, n)⟩

end EventRouting.Pattern
