import EventRouting.Text.BinaryProperty
import EventRouting.Text.Script

set_option autoImplicit false

namespace EventRouting

inductive WordBreak
  | carriageReturn
  | lineFeed
  | newline
  | extend
  | joiner
  | regionalIndicator
  | format
  | katakana
  | hebrewLetter
  | letter
  | singleQuote
  | doubleQuote
  | midNumberOrLetter
  | midLetter
  | midNumber
  | numeric
  | connector
  | blank
deriving DecidableEq, Repr

namespace WordBreak

def named? (name : String) : Option WordBreak :=
  match name with
  | "cr" => some .carriageReturn
  | "lf" => some .lineFeed
  | "newline" | "nl" => some .newline
  | "extend" => some .extend
  | "zwj" => some .joiner
  | "regionalindicator" | "ri" => some .regionalIndicator
  | "format" | "fo" => some .format
  | "katakana" | "ka" => some .katakana
  | "hebrewletter" | "hl" => some .hebrewLetter
  | "aletter" | "le" => some .letter
  | "singlequote" | "sq" => some .singleQuote
  | "doublequote" | "dq" => some .doubleQuote
  | "midnumlet" | "mb" => some .midNumberOrLetter
  | "midletter" | "ml" => some .midLetter
  | "midnum" | "mn" => some .midNumber
  | "numeric" | "nu" => some .numeric
  | "extendnumlet" | "ex" => some .connector
  | "wsegspace" => some .blank
  | _ => none

open BinaryProperty (storedSet)

def extending : CharSet :=
  (BinaryProperty.graphemeExtend.union (GeneralCategory.union [.spacingMark])).union
    (storedSet "emod")

def katakanaLetters : CharSet :=
  (Script.charactersNamed "katakana").union
    (CharSet.ofText "3031-3035 309B-309C 30A0 30FC FF70")

def hebrewLetters : CharSet :=
  (Script.charactersNamed "hebrew").inter (GeneralCategory.union [.otherLetter])

/-- Letters of scripts whose words only a dictionary can tell apart. -/
def dictionaryLetters : CharSet :=
  ⟨["ahom", "khmer", "lao", "myanmar", "newtailue", "taile", "taitham", "taiviet",
    "thai"].flatMap fun name => (Script.charactersNamed name).intervals⟩

def letters : CharSet :=
  let apart : List CharSet := [storedSet "ideo", katakanaLetters, hebrewLetters,
    Script.charactersNamed "hiragana", dictionaryLetters, extending]
  ((storedSet "alphabetic").diff ⟨apart.flatMap CharSet.intervals⟩).union (CharSet.ofText
    "2C2-2C5 2D2-2D7 2DE-2DF 2E5-2EB 2ED 2EF-2FF 55A-55C 55E 58A 5F3 70F A708-A716 A720-A721
A789-A78A AB5B")

def numbers : CharSet :=
  ((GeneralCategory.union [.decimalNumber]).union
    ((storedSet "pcm").diff (CharSet.ofText "70F"))).union (CharSet.ofText "66B 19DA")

def characters : WordBreak → CharSet
  | .carriageReturn => CharSet.singleton '\r'
  | .lineFeed => CharSet.singleton '\n'
  | .newline => CharSet.ofText "B-C 85 2028-2029"
  | .extend => extending
  | .joiner => CharSet.ofText "200D"
  | .regionalIndicator => storedSet "ri"
  | .format =>
    (GeneralCategory.union [.format]).diff
      ((extending.union (storedSet "pcm")).union (CharSet.ofText "200B 200D"))
  | .katakana => katakanaLetters
  | .hebrewLetter => hebrewLetters
  | .letter => letters
  | .singleQuote => CharSet.ofText "27"
  | .doubleQuote => CharSet.ofText "22"
  | .midNumberOrLetter => CharSet.ofText "2E 2018-2019 2024 FE52 FF07 FF0E"
  | .midLetter => CharSet.ofText "3A B7 387 55F 5F4 2027 FE13 FE55 FF1A"
  | .midNumber =>
    CharSet.ofText "2C 3B 37E 589 60C-60D 66C 7F8 2044 FE50 FE54 FF0C FF1B"
  | .numeric => numbers
  | .connector =>
    (GeneralCategory.union [.connectorPunctuation]).union (CharSet.ofText "202F")
  | .blank =>
    (GeneralCategory.union [.spaceSeparator]).diff (CharSet.ofText "A0 2007 202F")

end WordBreak
end EventRouting
