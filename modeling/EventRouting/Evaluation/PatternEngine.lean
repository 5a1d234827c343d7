set_option autoImplicit false

namespace EventRouting

/-- Compiles patterns, which are given as texts, and matches texts against compiled ones. For a
pattern that it cannot compile it has a message. -/
structure PatternEngine where
  Compiled : Type
  compile : String → Except String Compiled
  isMatch : Compiled → String → Bool

end EventRouting
