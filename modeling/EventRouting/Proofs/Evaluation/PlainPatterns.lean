import EventRouting.Evaluation.PatternEngine

set_option autoImplicit false

namespace EventRouting.PatternEngine

/-- An engine for patterns of letters and digits, each of which is found where it occurs. It takes
every other pattern for a bracket that opens a group and does not close it. -/
def plain : PatternEngine where
  Compiled := List Char
  compile pattern :=
    if pattern.toList.all Char.isAlphanum then .ok pattern.toList
    else .error ("regex parse error:\n    " ++ pattern ++ "\n    ^\nerror: unclosed group")
  isMatch compiled text :=
    (List.range (text.toList.length + 1)).any fun start =>
      compiled.isPrefixOf (text.toList.drop start)

end EventRouting.PatternEngine
