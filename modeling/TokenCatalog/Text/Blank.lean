namespace TokenCatalog.Text

/-!
# Blank text — characters without ink, and trimming them
-/

/-- A character with the property White_Space. -/
def isBlank (c : Char) : Bool :=
  let n := c.toNat
  (0x09 ≤ n && n ≤ 0x0D) || n == 0x20 || n == 0x85 || n == 0xA0 || n == 0x1680 ||
    (0x2000 ≤ n && n ≤ 0x200A) || n == 0x2028 || n == 0x2029 || n == 0x202F || n == 0x205F ||
    n == 0x3000

/-- Characters without the blanks at either end. -/
def trimChars (cs : List Char) : List Char :=
  ((cs.dropWhile isBlank).reverse.dropWhile isBlank).reverse

/-- A text without the blanks at either end. -/
def trim (s : String) : String := String.ofList (trimChars s.toList)

/-- A text in which every character is blank. -/
def isBlankText (s : String) : Bool := s.toList.all isBlank

-- A blank inside stays.
example : trim "\u00a0 x y\t" = "x y" := by decide +kernel

end TokenCatalog.Text
