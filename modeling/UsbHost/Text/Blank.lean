/-!
# Blank text

Blank characters are those with the Unicode property White_Space.
-/

set_option autoImplicit false

namespace UsbHost.Text

def isBlankChar (c : Char) : Bool :=
  let n := c.toNat
  (0x09 ≤ n && n ≤ 0x0D) || n == 0x20 || n == 0x85 || n == 0xA0 || n == 0x1680 ||
    (0x2000 ≤ n && n ≤ 0x200A) || n == 0x2028 || n == 0x2029 || n == 0x202F || n == 0x205F ||
    n == 0x3000

/-- The characters up to the last one that is not blank. -/
def dropBlankEnd : List Char → List Char
  | [] => []
  | c :: rest =>
    match dropBlankEnd rest with
    | [] => if isBlankChar c then [] else [c]
    | kept => c :: kept

/-- The characters without the blanks at both ends. -/
def trimChars (cs : List Char) : List Char :=
  dropBlankEnd (cs.dropWhile isBlankChar)

/-- A text of which nothing is left once blanks are trimmed from both ends. -/
def isBlank (text : String) : Bool :=
  text.toList.all isBlankChar

/-- A text that is blank has no character other than blanks, and the converse. -/
theorem isBlank_iff {text : String} :
    isBlank text = true ↔ ∀ c ∈ text.toList, isBlankChar c = true := by
  simp [isBlank]

end UsbHost.Text
