/-!
# Splitting at a separator

A text with `n` separators has `n + 1` parts, some of which may be empty.
-/

set_option autoImplicit false

namespace UsbHost.Text

/-- The parts between separators, each one as its characters. -/
def splitChars (separator : Char) : List Char → List (List Char)
  | [] => [[]]
  | c :: rest =>
    if c = separator then [] :: splitChars separator rest
    else
      match splitChars separator rest with
      | [] => [[c]]
      | part :: parts => (c :: part) :: parts

def split (separator : Char) (text : String) : List String :=
  (splitChars separator text.toList).map String.ofList

theorem splitChars_ne_nil (separator : Char) (cs : List Char) : splitChars separator cs ≠ [] := by
  fun_induction splitChars separator cs <;> simp_all

/-- There is always a part. -/
theorem split_ne_nil (separator : Char) (text : String) : split separator text ≠ [] := by
  rw [split, ne_eq, List.map_eq_nil_iff]
  exact splitChars_ne_nil separator text.toList

end UsbHost.Text
