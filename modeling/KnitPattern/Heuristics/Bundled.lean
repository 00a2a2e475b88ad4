/-
  The label tables used when a caller gives none.
-/
import KnitPattern.Heuristics.Basic

namespace KnitPattern.Heuristics

/-- Labels for yarn overs, centered decreases, cables, slipped, knit and purl stitches. -/
def bundled : Heuristics where
  exact := [
    ("YO", "Yarn over"),
    ("CDD", "Centered double decrease"),
    ("K1YOK1", "Knit 1, yarn over, knit 1")]
  stems := [
    ("PLACE", "Hold on cable needle"),
    ("SL", "Slip"),
    ("K", "Knit"),
    ("P", "Purl")]
  faultless := by decide

end KnitPattern.Heuristics
