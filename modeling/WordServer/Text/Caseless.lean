/-!
# ASCII letter case

Header names, media types and schemes are compared without regard to the case of ASCII letters; all
other characters keep their identity.
-/

namespace WordServer.Text

/-- The text with its ASCII letters in lower case. -/
def lower (cs : List Char) : List Char :=
  cs.map Char.toLower

/-- Equality up to the case of ASCII letters. -/
def caselessEq (a b : List Char) : Bool :=
  lower a == lower b

end WordServer.Text
