/-! White space of every script, and what is left of a text without it at its ends.
A text is blank when nothing is left. -/
namespace Strongbox.Text

/-- The White_Space property, which is wider than the ASCII blanks. -/
def isSpace (c : Char) : Bool :=
  let n := c.toNat
  (9 ≤ n && n ≤ 13) || n == 0x20 || n == 0x85 || n == 0xA0 || n == 0x1680 ||
    (0x2000 ≤ n && n ≤ 0x200A) || n == 0x2028 || n == 0x2029 || n == 0x202F ||
    n == 0x205F || n == 0x3000

def trimStartChars (cs : List Char) : List Char := cs.dropWhile isSpace

def trimEndChars (cs : List Char) : List Char := (cs.reverse.dropWhile isSpace).reverse

def trim (s : String) : String := String.ofList (trimEndChars (trimStartChars s.toList))

def isBlank (s : String) : Bool := s.toList.all isSpace

end Strongbox.Text
