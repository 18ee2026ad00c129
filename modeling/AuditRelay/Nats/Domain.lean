import AuditRelay.Text.Composition
import AuditRelay.Text.Cursive
import AuditRelay.Text.Direction
import AuditRelay.Text.Folding
import AuditRelay.Text.Hex
import AuditRelay.Text.Punycode

/-!
# Domains

A domain is a name in labels between points. It is brought into one form: percent signs are
resolved, characters are folded, and letters are composed with their marks. Then nothing may be left
that has a meaning in an address.

A label is a word, or it spells a word of another script in ASCII, and then it spells a word that
could stand there itself. A word does not begin with a mark, and joiners stand in it only where they
make a difference. If a domain has something in it that is written from the right, each of its words
has a single direction.
-/

namespace AuditRelay.Nats.Domain

/-- The parts of a text between the places where a character stands. -/
def split (sep : Char) : List Char → List (List Char)
  | [] => [[]]
  | c :: cs =>
    match split sep cs with
    | part :: parts => if c = sep then [] :: part :: parts else (c :: part) :: parts
    | [] => [[c]]

/-- The bytes of a text in which a percent sign and two hexadecimal digits stand for a byte. -/
def unescape : List Char → List UInt8
  | [] => []
  | '%' :: a :: b :: cs =>
    match Text.Hex.value? a, Text.Hex.value? b with
    | some x, some y => UInt8.ofNat (16 * x + y) :: unescape cs
    | _, _ => UInt8.ofNat '%'.toNat :: unescape (a :: b :: cs)
  | c :: cs => String.utf8EncodeChar c ++ unescape cs

/-- The one form of a text; none if a character in it cannot stand in a domain. -/
def form? (cs : List Char) : Option (List Char) :=
  (cs.mapM Text.Folding.fold?).map fun folded => Text.Composition.normalize folded.flatten

/-- The ASCII characters that cannot stand in a domain. -/
def isForbidden (c : Char) : Bool :=
  c.toNat ≤ 0x20 || c.toNat == 0x7F || "%#/:<>?@[\\]^|".toList.contains c

/-! ## Words -/

/-- Joins the characters around it. -/
def joiner : Char := '\u200d'

/-- Keeps the characters around it from being joined. -/
def nonJoiner : Char := '\u200c'

/-- Whether a character takes the vowel from the consonant before it. -/
def isVirama (c : Char) : Bool :=
  Text.MarkClass.ofChar c == Text.MarkClass.virama

/-- Whether the joiners in a text make a difference, where `before` stands before it, the last
character first. They do behind a virama, and letters of a cursive script can be kept from being
joined. -/
def joinersFit (before : List Char) : List Char → Bool
  | [] => true
  | c :: cs =>
    let fits :=
      if c = joiner then before.head?.any isVirama
      else if c = nonJoiner then before.head?.any isVirama || Text.Cursive.joins before cs
      else true
    fits && joinersFit (c :: before) cs

/-- The most characters that a word has if they are not all ASCII. -/
def longestWord : Nat := 1000

/-- Whether a text can be a word. -/
def isWord (word : List Char) : Bool :=
  word.all (·.toNat < 0x80)
    || !word.head?.any Text.Combining.isMark && joinersFit [] word && word.length ≤ longestWord

/-! ## Labels -/

/-- What a label begins with that spells a word of another script. -/
def spellingMark : List Char := "xn--".toList

/-- The most characters of a spelling. -/
def longestSpelling : Nat := 2000

/-- The word that a text spells, if the word could stand there itself. -/
def spelled? (cs : List Char) : Option (List Char) :=
  if cs.getLast?.any (· ≠ '-') && cs.length ≤ longestSpelling then
    (Text.Punycode.decode? cs).filter fun word => isWord word && form? word == some word
  else none

/-- The word of a label. -/
def word? (label : List Char) : Option (List Char) :=
  if spellingMark.isPrefixOf label then spelled? (label.drop spellingMark.length)
  else if isWord label then some label
  else none

/-- Whether the words of a domain can be read in one way only. -/
def areOneWay (words : List (List Char)) : Bool :=
  !(words.any (·.any fun c => (Text.Direction.ofChar c).turns))
    || words.all Text.Direction.isOneWay

/-- The domain that a text stands for. -/
def ofText? (cs : List Char) : Option (List Char) := do
  let text ← String.fromUTF8? (unescape cs).toByteArray
  let domain ← form? text.toList
  if domain.any isForbidden then none
  else
    let words ← (split '.' domain).mapM word?
    if areOneWay words then pure domain else none

end AuditRelay.Nats.Domain
