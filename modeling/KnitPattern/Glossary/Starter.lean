/-
  The starter glossary. Callers opt in to it; no reading uses it on its own.
-/
import KnitPattern.Glossary.Basic

namespace KnitPattern.Glossary

/-- Common abbreviations. -/
def starter : Glossary := [
  ⟨"k", "Knit", "Knit one stitch."⟩,
  ⟨"p", "Purl", "Purl one stitch."⟩,
  ⟨"k2tog", "Knit two together", "Right-leaning single decrease."⟩,
  ⟨"k2tog tbl", "Knit two together through back loop", "Left-leaning single decrease."⟩,
  ⟨"k3tog", "Knit three together", "Right-leaning double decrease."⟩,
  ⟨"p2tog", "Purl two together", "Single decrease worked purlwise."⟩,
  ⟨"yo", "Yarn over", "Wrap the yarn over the needle to make one stitch and an eyelet."⟩,
  ⟨"cdd", "Centered double decrease",
    "Slip two together knitwise, knit one, pass the slipped stitches over."⟩,
  ⟨"k1yok1", "Knit 1, yarn over, knit 1",
    "Worked into the same stitch; two stitches increased."⟩,
  ⟨"sl1", "Slip one", "Slip one stitch purlwise with yarn in back."⟩,
  ⟨"k around", "Knit around", "Knit every stitch of the round."⟩]

end KnitPattern.Glossary
