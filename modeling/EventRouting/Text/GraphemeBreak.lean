import EventRouting.Text.BinaryProperty

set_option autoImplicit false

namespace EventRouting

inductive GraphemeBreak
  | carriageReturn
  | lineFeed
  | control
  | extend
  | joiner
  | regionalIndicator
  | prepend
  | spacingMark
  | leadingJamo
  | vowelJamo
  | trailingJamo
  /-- A Hangul syllable that ends with its vowel. -/
  | openSyllable
  /-- A Hangul syllable with a trailing consonant. -/
  | closedSyllable
deriving DecidableEq, Repr

namespace GraphemeBreak

def named? (name : String) : Option GraphemeBreak :=
  match name with
  | "cr" => some .carriageReturn
  | "lf" => some .lineFeed
  | "control" | "cn" => some .control
  | "extend" | "ex" => some .extend
  | "zwj" => some .joiner
  | "regionalindicator" | "ri" => some .regionalIndicator
  | "prepend" | "pp" => some .prepend
  | "spacingmark" | "sm" => some .spacingMark
  | "l" => some .leadingJamo
  | "v" => some .vowelJamo
  | "t" => some .trailingJamo
  | "lv" => some .openSyllable
  | "lvt" => some .closedSyllable
  | _ => none

open BinaryProperty (graphemeExtend storedSet)

def prepended : CharSet := storedSet "pcm"

def extending : CharSet := graphemeExtend.union (storedSet "emod")

def controls : CharSet :=
  let reserved := (storedSet "di").inter (GeneralCategory.union [.unassigned])
  let apart := ((CharSet.ofText "A D 200D").union prepended).union extending
  ((GeneralCategory.union [.lineSeparator, .paragraphSeparator, .control, .format]).union
    reserved).diff apart

def separable : CharSet := CharSet.ofText
  "102B-102C 1038 1062-1064 1067-106D 1083 1087-108C 108F 109A-109C 1A61 1A63-1A64 AA7B AA7D
11720-11721"

/-- The syllables without a trailing consonant are every 28th one. -/
def openSyllables : CharSet :=
  ⟨(List.range 399).map fun k => (0xAC00 + 28 * k, 0xAC00 + 28 * k)⟩

def characters : GraphemeBreak → CharSet
  | .carriageReturn => CharSet.singleton '\r'
  | .lineFeed => CharSet.singleton '\n'
  | .control => controls
  | .extend => extending
  | .joiner => CharSet.ofText "200D"
  | .regionalIndicator => storedSet "ri"
  | .prepend =>
    prepended.union (CharSet.ofText
      "D4E 111C2-111C3 113D1 1193F 11941 11A3A 11A84-11A89 11D46 11F02")
  | .spacingMark =>
    ((GeneralCategory.union [.spacingMark]).diff (graphemeExtend.union separable)).union
      (CharSet.ofText "E33 EB3")
  | .leadingJamo => CharSet.ofText "1100-115F A960-A97C"
  | .vowelJamo => CharSet.ofText "1160-11A7 D7B0-D7C6 16D63 16D67-16D6A"
  | .trailingJamo => CharSet.ofText "11A8-11FF D7CB-D7FB"
  | .openSyllable => openSyllables
  | .closedSyllable => (CharSet.ofText "AC00-D7A3").diff openSyllables

end GraphemeBreak
end EventRouting
