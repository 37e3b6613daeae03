import NameService.Domain.Composition
import NameService.Domain.Direction
import NameService.Domain.Joining
import NameService.Domain.Punycode
import NameService.Domain.Repertoire

/-!
Domain names in any script. A name is read in the spelling that its characters stand for, label by
label; a label may also be spelled in ASCII alone, after the letters xn and two hyphens. These
modules stand for a general library of domain names, from which no more is wanted than whether a
name is one. The tables are those of Unicode 17.
-/

namespace NameService.Domain

def isAscii (text : List Char) : Bool := text.all fun c => c.toNat < 0x80

/-- What opens a label that is spelled in ASCII alone. -/
def codeOpening : List Char := ['x', 'n', '-', '-']

/-- A label that is in its final spelling and is not spelled in ASCII a second time. -/
def isPlain (label : List Char) : Bool :=
  label.all (fun c => spelled? c == some [c]) && compose label == label
    && !codeOpening.isPrefixOf label

/-- A label in its own characters. The ASCII spelling has no other use: it ends in a digit, so that
    some character beyond ASCII comes of it. -/
def decoded? (label : List Char) : Option (List Char) :=
  match Text.after? codeOpening label with
  | none => some label
  | some code =>
    if isAscii code && code.length ≤ 2000 && !(code.getLast?.getD '-' == '-') then
      (Punycode.decode? code).filter isPlain
    else none

/-- Whether a label can be read: it starts with no mark, has joiners only where they show, and is of
    a sensible length. ASCII has neither marks nor joiners. -/
def isReadable (label : List Char) : Bool :=
  isAscii label
    || (!(label.head?.map isMark).getD false && joinersFit [] label && label.length ≤ 1000)

/-- The labels of a domain name in their own characters, if it is one. -/
def labels? (name : List Char) : Option (List (List Char)) := do
  let spelling := compose (← name.mapM spelled?).flatten
  let labels ← (Text.pieces '.' spelling).mapM fun label => (decoded? label).filter isReadable
  if labels.any (·.any isLeftward) && !labels.all keepsDirection then none else some labels

end NameService.Domain
