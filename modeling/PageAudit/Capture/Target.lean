import PageAudit.Capture.Error

/-!
What can be captured: something that is pointed at a route and then gives the path of a picture. A
target acts on a world, about which nothing is assumed.
-/

namespace PageAudit.Capture

inductive Extent where
  | viewport
  | full
  deriving DecidableEq

structure Target (W : Type) where
  source : String
  navigate : String → W → Except Error Unit × W
  /-- Captures what the surface shows; the answer is the path of the picture. -/
  capture : Extent → W → Except Error String × W

end PageAudit.Capture
