/-!
White space in the sense of the Unicode property of that name.
-/
namespace TestSelection.Text

/-- The white space characters: six controls, the space and the spaces of other widths, and the
line and paragraph separators. -/
def isBlank (c : Char) : Bool :=
  let n := c.toNat
  (0x9 ≤ n && n ≤ 0xd) || n == 0x20 || n == 0x85 || n == 0xa0 || n == 0x1680 ||
    (0x2000 ≤ n && n ≤ 0x200a) || n == 0x2028 || n == 0x2029 || n == 0x202f || n == 0x205f ||
    n == 0x3000

/-- A text is blank when trimming its white space leaves nothing. -/
def isBlankText (s : String) : Bool :=
  s.toList.all isBlank

end TestSelection.Text
