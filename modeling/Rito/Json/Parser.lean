import Rito.Json.Grammar

namespace Rito

namespace Json

def skipBlank (text : List Char) : List Char := text.dropWhile isBlank

-- The parts of a string up to its closing quote, and what follows it.
def parseItems : List Char → Option (List Item × List Char)
  | '"' :: rest => some ([], rest)
  | '\\' :: 'u' :: first :: second :: third :: fourth :: rest =>
      if (Item.unicode first second third fourth).valid then
        (parseItems rest).map fun (items, rest) => (.unicode first second third fourth :: items, rest)
      else none
  | '\\' :: char :: rest =>
      if (Item.escape char).valid then
        (parseItems rest).map fun (items, rest) => (.escape char :: items, rest)
      else none
  | char :: rest =>
      if isUnescaped char then
        (parseItems rest).map fun (items, rest) => (.plain char :: items, rest)
      else none
  | [] => none

def parseSign : List Char → Bool × List Char
  | '-' :: rest => (true, rest)
  | text => (false, text)

-- A leading zero is the whole integer.
def parseInteger (text : List Char) : Option (List Char × List Char) :=
  if text.head? = some '0' then some (['0'], text.tail)
  else if (text.takeWhile Char.isDigit) = [] then none
  else some (text.takeWhile Char.isDigit, text.dropWhile Char.isDigit)

def parseFraction : List Char → Option (List Char × List Char)
  | '.' :: text =>
      if text.takeWhile Char.isDigit = [] then none
      else some (text.takeWhile Char.isDigit, text.dropWhile Char.isDigit)
  | text => some ([], text)

def parseExponentSign : List Char → List Char × List Char
  | '+' :: rest => (['+'], rest)
  | '-' :: rest => (['-'], rest)
  | text => ([], text)

def parseExponent : List Char → Option (Option Exponent × List Char)
  | letter :: text =>
      if letter = 'e' || letter = 'E' then
        let (sign, text) := parseExponentSign text
        if text.takeWhile Char.isDigit = [] then none
        else some (some ⟨letter, sign, text.takeWhile Char.isDigit⟩, text.dropWhile Char.isDigit)
      else some (none, letter :: text)
  | [] => some (none, [])

def parseNumber (text : List Char) : Option (Number × List Char) :=
  let (negative, text) := parseSign text
  match parseInteger text with
  | none => none
  | some (integer, text) =>
      match parseFraction text with
      | none => none
      | some (fraction, text) =>
          match parseExponent text with
          | none => none
          | some (exponent, text) => some (⟨negative, integer, fraction, exponent⟩, text)

-- The value of one of the three names when the text begins with it.
def parseLiteral (text : List Char) : Option (Json × List Char) :=
  if ['n', 'u', 'l', 'l'].isPrefixOf text then some (.null, text.drop 4)
  else if ['t', 'r', 'u', 'e'].isPrefixOf text then some (.bool true, text.drop 4)
  else if ['f', 'a', 'l', 's', 'e'].isPrefixOf text then some (.bool false, text.drop 5)
  else none

-- The elements of an array after its bracket; `parse` reads one value.
def parseElements (parse : List Char → Option (Json × List Char)) :
    Nat → List Char → Option (List Json × List Char)
  | 0, _ => none
  | fuel + 1, text =>
      match parse (skipBlank text) with
      | none => none
      | some (value, text) =>
          match skipBlank text with
          | ',' :: text =>
              (parseElements parse fuel text).map fun (values, text) => (value :: values, text)
          | ']' :: text => some ([value], text)
          | _ => none

-- A name with its colon.
def parseName (text : List Char) : Option (List Item × List Char) :=
  match skipBlank text with
  | '"' :: text =>
      match parseItems text with
      | none => none
      | some (name, text) =>
          match skipBlank text with
          | ':' :: text => some (name, text)
          | _ => none
  | _ => none

-- The members of an object after its brace.
def parseMembers (parse : List Char → Option (Json × List Char)) :
    Nat → List Char → Option (List (List Char × Json) × List Char)
  | 0, _ => none
  | fuel + 1, text =>
      match parseName text with
      | none => none
      | some (name, text) =>
          match parse (skipBlank text) with
          | none => none
          | some (value, text) =>
              match skipBlank text with
              | ',' :: text =>
                  (parseMembers parse fuel text).map fun (members, text) =>
                    ((decode name, value) :: members, text)
              | '}' :: text => some ([(decode name, value)], text)
              | _ => none

-- One value at the front of the text, and what follows it. The fuel bounds the
-- depth of the value.
def parseValue : Nat → List Char → Option (Json × List Char)
  | 0, _ => none
  | fuel + 1, '[' :: text =>
      match skipBlank text with
      | ']' :: text => some (.array [], text)
      | _ => (parseElements (parseValue fuel) text.length text).map fun (values, text) =>
          (.array values, text)
  | fuel + 1, '{' :: text =>
      match skipBlank text with
      | '}' :: text => some (.object [], text)
      | _ => (parseMembers (parseValue fuel) text.length text).map fun (members, text) =>
          (.object members, text)
  | _ + 1, '"' :: text => (parseItems text).map fun (items, text) => (.string (decode items), text)
  | _ + 1, text =>
      (parseLiteral text).or ((parseNumber text).map fun (digits, text) => (.number digits.value, text))

def parse (text : List Char) : Option Json :=
  match parseValue text.length (skipBlank text) with
  | none => none
  | some (value, rest) => if skipBlank rest = [] then some value else none

end Json

end Rito
