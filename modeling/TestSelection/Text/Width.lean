import TestSelection.Text.WidthTable

/-!
# Display width

How many columns a text takes in a terminal. Wide characters take two columns and marks none; a
line end of two characters counts once, and a picture composed of several characters counts as one
picture.
-/
namespace TestSelection.Text

/-- Columns of a character that stands alone. -/
def columns (c : Char) : Nat :=
  if emptyRanges.contains c then 0 else if wideRanges.contains c then 2 else 1

/-- Characters that are drawn as a picture, by themselves or on request. -/
def isPicture (c : Char) : Bool :=
  c.toNat > 0xff && (narrowPictureRanges.contains c || (wideRanges.contains c &&
    ((0x2300 ≤ c.toNat && c.toNat ≤ 0x2bff) || (0x1f000 ≤ c.toNat && c.toNat ≤ 0x1faff))))

/-- The five skin tones, which colour the picture before them. -/
def isSkinTone (c : Char) : Bool :=
  0x1f3fb ≤ c.toNat && c.toNat ≤ 0x1f3ff

/-- Columns of a text whose left neighbour is known to be a picture or not. -/
def displayWidthAfter (afterPicture : Bool) : List Char → Nat
  | [] => 0
  | '\r' :: '\n' :: rest => 1 + displayWidthAfter false rest
  | '\u200d' :: c :: rest =>
    if afterPicture && isPicture c then displayWidthAfter true rest
    else displayWidthAfter false (c :: rest)
  | c :: '\ufe0f' :: rest =>
    if narrowPictureRanges.contains c then 2 + displayWidthAfter true rest
    else columns c + displayWidthAfter (isPicture c || (columns c == 0 && afterPicture)) rest
  | c :: rest =>
    if afterPicture && isSkinTone c then displayWidthAfter true rest
    else columns c + displayWidthAfter (isPicture c || (columns c == 0 && afterPicture)) rest

/-- Columns of a text in a terminal. -/
def displayWidth (s : String) : Nat :=
  displayWidthAfter false s.toList

end TestSelection.Text
