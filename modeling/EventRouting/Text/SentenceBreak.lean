import EventRouting.Text.WordBreak

set_option autoImplicit false

namespace EventRouting

inductive SentenceBreak
  | carriageReturn
  | lineFeed
  | separator
  | extend
  | format
  | blank
  | lower
  | upper
  | otherLetter
  | numeric
  | fullStop
  | continuation
  | terminator
  | close
deriving DecidableEq, Repr

namespace SentenceBreak

def named? (name : String) : Option SentenceBreak :=
  match name with
  | "cr" => some .carriageReturn
  | "lf" => some .lineFeed
  | "sep" | "se" => some .separator
  | "extend" | "ex" => some .extend
  | "format" | "fo" => some .format
  | "sp" => some .blank
  | "lower" | "lo" => some .lower
  | "upper" | "up" => some .upper
  | "oletter" | "le" => some .otherLetter
  | "numeric" | "nu" => some .numeric
  | "aterm" | "at" => some .fullStop
  | "scontinue" | "sc" => some .continuation
  | "sterm" | "st" => some .terminator
  | "close" | "cl" => some .close
  | _ => none

open BinaryProperty (graphemeExtend storedSet)

def extending : CharSet :=
  (graphemeExtend.union (GeneralCategory.union [.spacingMark])).union (CharSet.ofText "200D")

/-- Lower case letters, without the Georgian ones that have no sentence case. -/
def lowerLetters : CharSet :=
  BinaryProperty.lowercase.diff (graphemeExtend.union (CharSet.ofText "10D0-10FA 10FD-10FF"))

def upperLetters : CharSet :=
  (BinaryProperty.uppercase.union (GeneralCategory.union [.titlecaseLetter])).diff
    (CharSet.ofText "1C90-1CBA 1CBD-1CBF")

def numbers : CharSet := WordBreak.numbers.union (CharSet.ofText "66C")

def fullStops : CharSet := CharSet.ofText "2E 2024 FE52 FF0E"

def characters : SentenceBreak → CharSet
  | .carriageReturn => CharSet.singleton '\r'
  | .lineFeed => CharSet.singleton '\n'
  | .separator => CharSet.ofText "85 2028-2029"
  | .extend => extending
  | .format =>
    (GeneralCategory.union [.format]).diff
      ((extending.union numbers).union (CharSet.ofText "200C-200D"))
  | .blank => CharSet.whiteSpace.diff (CharSet.ofText "A D 85 2028-2029")
  | .lower => lowerLetters
  | .upper => upperLetters
  | .otherLetter =>
    ((storedSet "alphabetic").union (CharSet.ofText "5F3")).diff
      ((lowerLetters.union upperLetters).union extending)
  | .numeric => numbers
  | .fullStop => fullStops
  | .continuation =>
    CharSet.ofText
      "2C-2D 3A-3B 37E 55D 60C-60D 7F8 1802 1808 2013-2014 3001 FE10-FE11 FE13-FE14 FE31-FE32
FE50-FE51 FE54-FE55 FE58 FE63 FF0C-FF0D FF1A-FF1B FF64"
  | .terminator => (storedSet "sterm").diff fullStops
  | .close =>
    (GeneralCategory.union [.openPunctuation, .closePunctuation, .initialPunctuation,
      .finalPunctuation]).union
      (CharSet.ofText "22 27 275B-2760 2E00-2E01 2E06-2E08 2E0B 1F676-1F678")

end SentenceBreak
end EventRouting
