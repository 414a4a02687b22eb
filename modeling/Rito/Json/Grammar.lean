import Mathlib.Algebra.Group.Int.Defs
import Mathlib.Algebra.Group.Nat.Defs
import Mathlib.Tactic.Common

namespace Rito

-- A JSON value. Members keep the order and the repetitions of the text.
inductive Json where
  | null
  | bool (value : Bool)
  | number (value : Rat)
  | string (value : List Char)
  | array (elements : List Json)
  | object (members : List (List Char × Json))

namespace Json

def isBlank (char : Char) : Bool :=
  char = ' ' || char = '\t' || char = '\n' || char = '\r'

-- What a two-character escape stands for.
def escaped : Char → Option Char
  | '"' => some '"'
  | '\\' => some '\\'
  | '/' => some '/'
  | 'b' => some '\x08'
  | 'f' => some '\x0c'
  | 'n' => some '\n'
  | 'r' => some '\r'
  | 't' => some '\t'
  | _ => none

def hexValue (char : Char) : Option Nat :=
  if '0' ≤ char ∧ char ≤ '9' then some (char.toNat - '0'.toNat)
  else if 'a' ≤ char ∧ char ≤ 'f' then some (char.toNat - 'a'.toNat + 10)
  else if 'A' ≤ char ∧ char ≤ 'F' then some (char.toNat - 'A'.toNat + 10)
  else none

-- A character that stands for itself between the quotes.
def isUnescaped (char : Char) : Bool :=
  char ≠ '"' && char ≠ '\\' && 0x20 ≤ char.toNat

-- What stands between the quotes of a string, one character, escape or
-- \u escape after the other.
inductive Item where
  | plain (char : Char)
  | escape (char : Char)
  | unicode (first second third fourth : Char)
  deriving DecidableEq, Repr

namespace Item

def text : Item → List Char
  | .plain char => [char]
  | .escape char => ['\\', char]
  | .unicode first second third fourth => ['\\', 'u', first, second, third, fourth]

def valid : Item → Bool
  | .plain char => isUnescaped char
  | .escape char => (escaped char).isSome
  | .unicode first second third fourth =>
      [first, second, third, fourth].all fun digit => (hexValue digit).isSome

def codeUnit (first second third fourth : Char) : Nat :=
  [first, second, third, fourth].foldl (fun unit digit => 16 * unit + (hexValue digit).getD 0) 0

-- A surrogate without its partner is no character: U+FFFD stands for it.
def char : Item → Char
  | .plain char => char
  | .escape char => (escaped char).getD char
  | .unicode first second third fourth =>
      let unit := codeUnit first second third fourth
      if 0xd800 ≤ unit ∧ unit < 0xe000 then '\ufffd' else Char.ofNat unit

-- The character two \u escapes stand for when they are a surrogate pair.
def pair : Item → Item → Option Char
  | .unicode h₁ h₂ h₃ h₄, .unicode l₁ l₂ l₃ l₄ =>
      let high := codeUnit h₁ h₂ h₃ h₄
      let low := codeUnit l₁ l₂ l₃ l₄
      if 0xd800 ≤ high ∧ high < 0xdc00 ∧ 0xdc00 ≤ low ∧ low < 0xe000 then
        some (Char.ofNat (0x10000 + (high - 0xd800) * 0x400 + (low - 0xdc00)))
      else none
  | _, _ => none

end Item

def decode : List Item → List Char
  | [] => []
  | [item] => [item.char]
  | item :: next :: rest =>
      match item.pair next with
      | some char => char :: decode rest
      | none => item.char :: decode (next :: rest)

def quoted (items : List Item) : List Char :=
  '"' :: (items.flatMap Item.text ++ ['"'])

-- The part of a number after e or E.
structure Exponent where
  letter : Char
  sign : List Char
  digits : List Char
  deriving DecidableEq, Repr

-- Without a fraction `fraction` is empty.
structure Number where
  negative : Bool
  integer : List Char
  fraction : List Char
  exponent : Option Exponent
  deriving DecidableEq, Repr

def natOf (digits : List Char) : Nat :=
  digits.foldl (fun value digit => 10 * value + (digit.toNat - '0'.toNat)) 0

namespace Exponent

def text (exponent : Exponent) : List Char :=
  exponent.letter :: (exponent.sign ++ exponent.digits)

def valid (exponent : Exponent) : Bool :=
  (exponent.letter = 'e' || exponent.letter = 'E') &&
    (exponent.sign = [] || exponent.sign = ['+'] || exponent.sign = ['-']) &&
    exponent.digits ≠ [] && exponent.digits.all Char.isDigit

def value (exponent : Exponent) : Int :=
  if exponent.sign = ['-'] then -(natOf exponent.digits : Int) else natOf exponent.digits

end Exponent

namespace Number

def fractionText (fraction : List Char) : List Char :=
  if fraction = [] then [] else '.' :: fraction

def exponentText : Option Exponent → List Char
  | none => []
  | some exponent => exponent.text

def text (number : Number) : List Char :=
  (if number.negative then ['-'] else []) ++ number.integer ++
    fractionText number.fraction ++ exponentText number.exponent

-- No digit stands after a leading zero.
def validInteger (integer : List Char) : Bool :=
  integer ≠ [] && integer.all Char.isDigit && (integer.head? ≠ some '0' || integer = ['0'])

def valid (number : Number) : Bool :=
  validInteger number.integer && number.fraction.all Char.isDigit &&
    (number.exponent.all Exponent.valid)

def value (number : Number) : Rat :=
  let digits : Int := natOf (number.integer ++ number.fraction)
  let mantissa := if number.negative then -digits else digits
  let scale := (number.exponent.map Exponent.value).getD 0 - number.fraction.length
  if 0 ≤ scale then ((mantissa * 10 ^ scale.toNat : Int) : Rat)
  else mkRat mantissa (10 ^ (-scale).toNat)

end Number

-- A value with its text, and the blanks around it.
structure Element where
  before : List Char
  text : List Char
  after : List Char
  value : Json

def Element.whole (element : Element) : List Char :=
  element.before ++ element.text ++ element.after

def Element.blank (element : Element) : Bool :=
  element.before.all isBlank && element.after.all isBlank

-- A name with its quotes, the blanks around it, and the element after the colon.
structure Member where
  before : List Char
  name : List Item
  after : List Char
  element : Element

namespace Member

def whole (member : Member) : List Char :=
  member.before ++ quoted member.name ++ member.after ++ ':' :: member.element.whole

def valid (member : Member) : Bool :=
  member.before.all isBlank && member.name.all Item.valid && member.after.all isBlank &&
    member.element.blank

def value (member : Member) : List Char × Json := (decode member.name, member.element.value)

end Member

-- The parts of an array or an object, with the commas between them.
def separated (first : List Char) (rest : List (List Char)) : List Char :=
  first ++ rest.flatMap (',' :: ·)

-- The texts of RFC 8259 values and the values they stand for.
inductive Value : List Char → Json → Prop
  | null : Value ['n', 'u', 'l', 'l'] .null
  | true : Value ['t', 'r', 'u', 'e'] (.bool true)
  | false : Value ['f', 'a', 'l', 's', 'e'] (.bool false)
  | number (number : Number) (h : number.valid = true) : Value number.text (.number number.value)
  | string (items : List Item) (h : items.all Item.valid = true) :
      Value (quoted items) (.string (decode items))
  | emptyArray (gap : List Char) (h : gap.all isBlank = true) : Value ('[' :: (gap ++ [']'])) (.array [])
  | array (first : Element) (rest : List Element)
      (hb : ∀ element ∈ first :: rest, element.blank = true)
      (hv : ∀ element ∈ first :: rest, Value element.text element.value) :
      Value ('[' :: (separated first.whole (rest.map Element.whole) ++ [']']))
        (.array ((first :: rest).map Element.value))
  | emptyObject (gap : List Char) (h : gap.all isBlank = true) :
      Value ('{' :: (gap ++ ['}'])) (.object [])
  | object (first : Member) (rest : List Member)
      (hb : ∀ member ∈ first :: rest, member.valid = true)
      (hv : ∀ member ∈ first :: rest, Value member.element.text member.element.value) :
      Value ('{' :: (separated first.whole (rest.map Member.whole) ++ ['}']))
        (.object ((first :: rest).map Member.value))

-- A JSON text: a value with blanks around it.
def Text (text : List Char) (value : Json) : Prop :=
  ∃ element : Element, element.blank = true ∧ Value element.text element.value ∧
    text = element.whole ∧ value = element.value

end Json

end Rito
