import EventRouting.Text.CharSet
import EventRouting.Text.Classes

set_option autoImplicit false

namespace EventRouting.CharSet

/-- The number that hexadecimal digits write; other characters do not count. -/
def hexNumber (ds : List Char) : Nat :=
  ds.foldl (fun n d => match Text.hexDigit? d with | some k => 16 * n + k | none => n) 0

def intervalOfWord (word : List Char) : Nat × Nat :=
  let first := word.takeWhile (· != '-')
  let last := (word.dropWhile (· != '-')).drop 1
  (hexNumber first, hexNumber (if last.isEmpty then first else last))

def words (text : List Char) : List (List Char) :=
  (text.splitBy fun a b => a.isWhitespace == b.isWhitespace).filter
    fun w => w.any fun c => !c.isWhitespace

def ofText (text : String) : CharSet := ⟨(words text.toList).map intervalOfWord⟩

end EventRouting.CharSet
