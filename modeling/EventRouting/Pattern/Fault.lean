set_option autoImplicit false

namespace EventRouting.Pattern

inductive Fault
  | backreference
  | classEscapeInvalid
  | classRangeInvalid
  | classRangeBound
  | classUnclosed
  | decimalInvalid
  | duplicateFlag
  | duplicateGroupName
  | emptyGroupName
  | emptyHexEscape
  | emptyRepetitionCount
  | flagDanglingNegation
  | flagRepeatedNegation
  | flagsUnclosed
  | groupNameInvalid
  | groupNameUnclosed
  | groupUnclosed
  | groupUnopened
  | hexDigitInvalid
  | hexValueInvalid
  | lookAround
  | nestingTooDeep
  | partialCharacter
  | propertyUnknown
  | propertyWithoutUnicode
  | repetitionCountInvalid
  | repetitionCountUnclosed
  | repetitionMissing
  | unexpectedEnd
  | unicodeNotAllowed
  | unknownBoundary
  | unknownEscape
  | unknownFlag
deriving DecidableEq, Repr

def Fault.message : Fault → String
  | .backreference => "backreferences are not supported"
  | .classEscapeInvalid => "invalid escape in a character class"
  | .classRangeInvalid => "the start of a class range lies after its end"
  | .classRangeBound => "a class range must have single characters as bounds"
  | .classUnclosed => "unclosed character class"
  | .decimalInvalid => "invalid decimal number"
  | .duplicateFlag => "duplicate flag"
  | .duplicateGroupName => "duplicate name of a capture group"
  | .emptyGroupName => "empty name of a capture group"
  | .emptyHexEscape => "hexadecimal escape without digits"
  | .emptyRepetitionCount => "repetition without a count"
  | .flagDanglingNegation => "flag negation without a flag"
  | .flagRepeatedNegation => "flag negation appears twice"
  | .flagsUnclosed => "flags end unexpectedly"
  | .groupNameInvalid => "invalid character in the name of a capture group"
  | .groupNameUnclosed => "unclosed name of a capture group"
  | .groupUnclosed => "unclosed group"
  | .groupUnopened => "unopened group"
  | .hexDigitInvalid => "invalid hexadecimal digit"
  | .hexValueInvalid => "hexadecimal escape stands for no character"
  | .lookAround => "look-around is not supported"
  | .nestingTooDeep => "pattern nests too deep"
  | .partialCharacter => "pattern can match a part of a character"
  | .propertyUnknown => "unknown Unicode property or value"
  | .propertyWithoutUnicode => "Unicode property where Unicode is switched off"
  | .repetitionCountInvalid => "the least count of a repetition lies above its greatest"
  | .repetitionCountUnclosed => "unclosed counted repetition"
  | .repetitionMissing => "repetition of nothing"
  | .unexpectedEnd => "pattern ends in an escape"
  | .unicodeNotAllowed => "character in a class where Unicode is switched off"
  | .unknownBoundary => "unknown word boundary"
  | .unknownEscape => "unknown escape"
  | .unknownFlag => "unknown flag"

end EventRouting.Pattern
