/-
  Letters without regard to case. Besides the pairs of ASCII, four signs count as the small
  letters they fold to: the Kelvin sign, the long s, and the dotted and dotless letter i.
-/

namespace KnitPattern.Text

/-- The character that stands for `c` where the case of letters does not matter. -/
def foldCase (c : Char) : Char :=
  if c == '\u212A' then 'k'
  else if c == '\u017F' then 's'
  else if c == '\u0130' || c == '\u0131' then 'i'
  else c.toLower

end KnitPattern.Text
