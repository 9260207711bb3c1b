import PageAudit.Recognition.Error
import PageAudit.Recognition.Result

/-!
What recognizes the text on a picture. A recognizer acts on a world, about which nothing is assumed,
and may take its time.
-/

namespace PageAudit.Recognition

/-- What a recognizer answers and how long it takes to do so. -/
structure Reply where
  outcome : Except Error Result
  delay : Span

structure Recognizer (W : Type) where
  recognize : String → W → Reply × W

end PageAudit.Recognition
