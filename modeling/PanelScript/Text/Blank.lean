/-!
# Blanks

The characters that count as white space, in all scripts, and the two operations that look at
nothing else: trimming a text and splitting it into words.

* `isBlank` is the class, `trimBlank` and `words` the operations.
-/

namespace PanelScript

/-- White space: the six ASCII blanks, the next-line control and the spaces and separators of other
scripts. -/
def isBlank (c : Char) : Bool :=
  let n := c.toNat
  (9 ≤ n && n ≤ 13) || n = 0x20 || n = 0x85 || n = 0xa0 || n = 0x1680 ||
    (0x2000 ≤ n && n ≤ 0x200a) || n = 0x2028 || n = 0x2029 || n = 0x202f || n = 0x205f || n = 0x3000

/-- The text without the blanks at its start. -/
def trimBlankLeft (cs : List Char) : List Char := cs.dropWhile isBlank

/-- The text without the blanks at its ends. -/
def trimBlank (cs : List Char) : List Char :=
  (trimBlankLeft (trimBlankLeft cs).reverse).reverse

/-- The maximal runs of characters that are not blank, in order. -/
def words (cs : List Char) : List (List Char) :=
  (cs.splitBy fun a b => isBlank a == isBlank b).filter fun w => !w.any isBlank

end PanelScript
