import EnumOrdering.Net.Address
import EnumOrdering.Unicode.Direction
import EnumOrdering.Unicode.Joining
import EnumOrdering.Url.NameMapping
import EnumOrdering.Url.Punycode

/-!
# Domain names

A domain name is looked up in its form in ASCII: its characters are replaced by
those they stand for, and each label with characters beyond ASCII is encoded
behind a mark. A label that bears the mark already must stand for such a label.
-/

namespace EnumOrdering.Url.DomainName

/-- The characters that no domain name may hold. -/
def isForbidden (c : Char) : Bool :=
  c.toNat ≤ 0x20 || c.toNat = 0x7F || "#%/:<>?@[\\]^|".toList.contains c

/-- Whether a character is one of ASCII. -/
def isBasic (c : Char) : Bool := c.toNat < 0x80

/-- The mark of an encoded label. -/
def mark : List Char := "xn--".toList

/-- The most characters that a label may have that is to be encoded. -/
abbrev maxLabel : Nat := 1000

/-- The most characters that an encoded label may have behind its mark. -/
abbrev maxEncoded : Nat := 2000

/-- A label as it is shown and as it is looked up. -/
structure Label where
  shown : List Char
  ascii : List Char
deriving Repr, DecidableEq

/-- Whether a label with characters beyond ASCII is well-formed apart from its
direction. -/
def isWellFormed (label : List Char) : Bool :=
  label.length ≤ maxLabel && !mark.isPrefixOf label && !label.head?.any Unicode.isMark
    && Unicode.joinersFit [] label

/-- What an encoded label stands for, given what follows the mark. -/
def shown? (encoded : List Char) : Option (List Char) :=
  if encoded.getLast? = some '-' || maxEncoded < encoded.length then none
  else
    (Punycode.decode? encoded).filter fun label =>
      label ≠ [] && isPlainName label && isWellFormed label

/-- The label of characters that stand for themselves. -/
def label? (cs : List Char) : Option Label :=
  if cs.all isBasic then
    if mark.isPrefixOf cs then (shown? (cs.drop mark.length)).map fun shown => ⟨shown, cs⟩
    else some ⟨cs, cs⟩
  else if isWellFormed cs then some ⟨cs, mark ++ Punycode.encode cs⟩
  else none

/-- Whether the labels of a name can be told apart wherever they are shown. -/
def directionsFit (labels : List Label) : Bool :=
  !labels.any (·.shown.any Unicode.runsLeft)
    || labels.all (Unicode.runsInOneDirection ·.shown)

/-- The labels of a name. -/
def labels? (name : List Char) : Option (List Label) :=
  (plainName? name).bind fun name =>
    if name.any isForbidden then none
    else ((Net.splitAll '.' name).mapM label?).filter directionsFit

/-- The form of a name in which it is looked up. -/
def ascii? (name : List Char) : Option (List Char) :=
  (labels? name).map fun labels => ['.'].intercalate (labels.map Label.ascii)

end EnumOrdering.Url.DomainName
