/-!
# Places in a text

A place in a text is given by the number of bytes that stand in front of it in UTF-8.

A text cannot be cut inside of a character; a program that tries stops there. Nothing is said here
about such a program: a place inside of a character counts as the place behind that character.
-/

set_option autoImplicit false

namespace UsbHost.Text

/-- The number of bytes that characters take. -/
def byteSize (cs : List Char) : Nat :=
  cs.foldr (fun c size => c.utf8Size + size) 0

/-- What stands in front of a place. -/
def takeBytes : Nat → List Char → List Char
  | _, [] => []
  | place, c :: rest => if place = 0 then [] else c :: takeBytes (place - c.utf8Size) rest

/-- What stands behind a place. -/
def dropBytes : Nat → List Char → List Char
  | _, [] => []
  | place, c :: rest => if place = 0 then c :: rest else dropBytes (place - c.utf8Size) rest

def between (first last : Nat) (cs : List Char) : List Char :=
  dropBytes first (takeBytes last cs)

end UsbHost.Text
