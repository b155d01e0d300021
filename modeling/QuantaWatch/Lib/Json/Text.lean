import QuantaWatch.Lib.Encoding
import QuantaWatch.Lib.Json.Value

/-!
The compact JSON printer and the strict JSON parser, on lists of
characters.
-/

namespace QuantaWatch.Lib.Json

open Lib.Encoding

/-- Decimal text of finite floats. `parse` reads one number token and fails
where the number is out of range. -/
structure FloatText where
  format : F64 → List Char
  parse : List Char → Option F64

def escapeChar (char : Char) : List Char :=
  if char = '"' then ['\\', '"']
  else if char = '\\' then ['\\', '\\']
  else if char.toNat = 8 then ['\\', 'b']
  else if char.toNat = 9 then ['\\', 't']
  else if char.toNat = 10 then ['\\', 'n']
  else if char.toNat = 12 then ['\\', 'f']
  else if char.toNat = 13 then ['\\', 'r']
  else if char.toNat < 32 then
    ['\\', 'u', '0', '0', hexDigit (char.toNat / 16), hexDigit (char.toNat % 16)]
  else [char]

def printString (text : String) : List Char :=
  '"' :: (text.toList.flatMap escapeChar ++ ['"'])

def Number.print (floats : FloatText) : Number → List Char
  | .posInt value => Nat.toDigits 10 value.toNat
  | .negInt below => '-' :: Nat.toDigits 10 (below.val + 1)
  | .float value => floats.format value

namespace Value

mutual

def print (floats : FloatText) : Value → List Char
  | null => ['n', 'u', 'l', 'l']
  | bool true => ['t', 'r', 'u', 'e']
  | bool false => ['f', 'a', 'l', 's', 'e']
  | number value => value.print floats
  | string value => printString value
  | array [] => ['[', ']']
  | array (value :: rest) => '[' :: (value.print floats ++ printElements floats rest)
  | object [] => ['{', '}']
  | object ((key, value) :: rest) =>
    '{' :: (printString key ++ ':' :: (value.print floats ++ printFields floats rest))

def printElements (floats : FloatText) : List Value → List Char
  | [] => [']']
  | value :: rest => ',' :: (value.print floats ++ printElements floats rest)

def printFields (floats : FloatText) : List (String × Value) → List Char
  | [] => ['}']
  | (key, value) :: rest =>
    ',' :: (printString key ++ ':' :: (value.print floats ++ printFields floats rest))

end

end Value

def hexValue (char : Char) : Option Nat :=
  if '0' ≤ char ∧ char ≤ '9' then some (char.toNat - 48)
  else if 'a' ≤ char ∧ char ≤ 'f' then some (char.toNat - 87)
  else if 'A' ≤ char ∧ char ≤ 'F' then some (char.toNat - 55)
  else none

def hexUnit (first second third fourth : Char) : Option Nat :=
  match hexValue first, hexValue second, hexValue third, hexValue fourth with
  | some high, some upper, some lower, some low =>
    some (((high * 16 + upper) * 16 + lower) * 16 + low)
  | _, _, _, _ => none

def simpleEscape (char : Char) : Option Char :=
  if char = '"' then some '"'
  else if char = '\\' then some '\\'
  else if char = '/' then some '/'
  else if char = 'b' then some (Char.ofNat 8)
  else if char = 'f' then some (Char.ofNat 12)
  else if char = 'n' then some (Char.ofNat 10)
  else if char = 'r' then some (Char.ofNat 13)
  else if char = 't' then some (Char.ofNat 9)
  else none

theorem escapeChar_cases (char : Char) : (∃ letter ∈ ['"', '\\', 'b', 't', 'n', 'f', 'r'],
      simpleEscape letter = some char ∧ escapeChar char = ['\\', letter]) ∨
    (char.toNat < 32 ∧ escapeChar char =
      ['\\', 'u', '0', '0', hexDigit (char.toNat / 16), hexDigit (char.toNat % 16)]) ∨
    (char ≠ '"' ∧ char ≠ '\\' ∧ 32 ≤ char.toNat ∧ escapeChar char = [char]) := by
  by_cases short : char ∈ ['"', '\\', Char.ofNat 8, Char.ofNat 9, Char.ofNat 10, Char.ofNat 12,
      Char.ofNat 13]
  · refine Or.inl ?_
    simp only [List.mem_cons, List.not_mem_nil, or_false] at short
    rcases short with rfl | rfl | rfl | rfl | rfl | rfl | rfl
    · exact ⟨'"', by simp, rfl, rfl⟩
    · exact ⟨'\\', by simp, rfl, rfl⟩
    · exact ⟨'b', by simp, rfl, rfl⟩
    · exact ⟨'t', by simp, rfl, rfl⟩
    · exact ⟨'n', by simp, rfl, rfl⟩
    · exact ⟨'f', by simp, rfl, rfl⟩
    · exact ⟨'r', by simp, rfl, rfl⟩
  · have unnamed {code : Nat} (other : char ≠ Char.ofNat code) : char.toNat ≠ code := by
      rintro rfl
      exact other (Char.ofNat_toNat char).symm
    simp only [List.mem_cons, List.not_mem_nil, or_false, not_or] at short
    rcases short with ⟨quote, slash, backspace, tab, newline, formFeed, carriage⟩
    have long : escapeChar char = if char.toNat < 32 then
        ['\\', 'u', '0', '0', hexDigit (char.toNat / 16), hexDigit (char.toNat % 16)]
        else [char] := by
      rw [escapeChar, if_neg quote, if_neg slash, if_neg (unnamed backspace), if_neg (unnamed tab),
        if_neg (unnamed newline), if_neg (unnamed formFeed), if_neg (unnamed carriage)]
    by_cases control : char.toNat < 32
    · exact Or.inr (Or.inl ⟨control, by rw [long, if_pos control]⟩)
    · exact Or.inr (Or.inr ⟨quote, slash, by omega, by rw [long, if_neg control]⟩)

def pushChar (char : Char) : Option (List Char × List Char) → Option (List Char × List Char) :=
  Option.map fun result => (char :: result.1, result.2)

def parseString : List Char → Option (List Char × List Char)
  | [] => none
  | char :: rest =>
    if char = '"' then some ([], rest)
    else if char = '\\' then
      match rest with
      | [] => none
      | escape :: tail =>
        if escape = 'u' then
          match tail with
          | first :: second :: third :: fourth :: after =>
            match hexUnit first second third fourth with
            | none => none
            | some unit =>
              if 0xd800 ≤ unit ∧ unit < 0xdc00 then
                -- a leading surrogate must be completed by a trailing one
                match after with
                | slash :: marker :: fifth :: sixth :: seventh :: eighth :: last =>
                  if slash = '\\' ∧ marker = 'u' then
                    match hexUnit fifth sixth seventh eighth with
                    | none => none
                    | some low =>
                      if 0xdc00 ≤ low ∧ low < 0xe000 then
                        pushChar (Char.ofNat
                          (0x10000 + (unit - 0xd800) * 0x400 + (low - 0xdc00)))
                          (parseString last)
                      else none
                  else none
                | _ => none
              else if 0xdc00 ≤ unit ∧ unit < 0xe000 then none
              else pushChar (Char.ofNat unit) (parseString after)
          | _ => none
        else
          match simpleEscape escape with
          | some plain => pushChar plain (parseString tail)
          | none => none
    else if char.toNat < 32 then none
    else pushChar char (parseString rest)

def parseFraction : List Char → Option (List Char × List Char)
  | [] => some ([], [])
  | char :: rest =>
    if char = '.' then
      if rest.takeWhile Char.isDigit = [] then none
      else some ('.' :: rest.takeWhile Char.isDigit, rest.dropWhile Char.isDigit)
    else some ([], char :: rest)

def parseExponentSign : List Char → List Char × List Char
  | [] => ([], [])
  | char :: rest => if char = '+' ∨ char = '-' then ([char], rest) else ([], char :: rest)

def parseExponent : List Char → Option (List Char × List Char)
  | [] => some ([], [])
  | char :: rest =>
    if char = 'e' ∨ char = 'E' then
      let (sign, digits) := parseExponentSign rest
      if digits.takeWhile Char.isDigit = [] then none
      else some (char :: (sign ++ digits.takeWhile Char.isDigit), digits.dropWhile Char.isDigit)
    else some ([], char :: rest)

def classify (floats : FloatText) (negative : Bool) (digits fraction exponent : List Char) :
    Option Number :=
  let magnitude := Nat.ofDigitChars 10 digits 0
  if fraction = [] ∧ exponent = [] then
    if negative then
      if h : 0 < magnitude ∧ magnitude ≤ 2 ^ 63 then
        some (.negInt ⟨magnitude - 1, by omega⟩)
      else (floats.parse ('-' :: digits)).map .float
    else if magnitude < 2 ^ 64 then some (.posInt (UInt64.ofNat magnitude))
    else (floats.parse digits).map .float
  else
    (floats.parse ((if negative then ['-'] else []) ++ digits ++ fraction ++ exponent)).map .float

def parseUnsigned (floats : FloatText) (negative : Bool) (text : List Char) :
    Option (Number × List Char) :=
  match text.takeWhile Char.isDigit with
  | [] => none
  | first :: others =>
    if first = '0' ∧ others ≠ [] then none
    else
      match parseFraction (text.dropWhile Char.isDigit) with
      | none => none
      | some (fraction, afterFraction) =>
        match parseExponent afterFraction with
        | none => none
        | some (exponent, rest) =>
          (classify floats negative (first :: others) fraction exponent).map
            fun value => (value, rest)

def parseNumber (floats : FloatText) : List Char → Option (Number × List Char)
  | [] => none
  | char :: rest =>
    if char = '-' then parseUnsigned floats true rest
    else parseUnsigned floats false (char :: rest)

def isSpace (char : Char) : Bool :=
  char = ' ' || char.toNat = 10 || char.toNat = 9 || char.toNat = 13

def skipSpace (text : List Char) : List Char :=
  text.dropWhile isSpace

def nestingLimit : Nat := 127

mutual

/-- One value and what follows it. `fuel` bounds the number of calls and
`depth` the containers that may still be opened. -/
def parseValue (floats : FloatText) : Nat → Nat → List Char → Option (Value × List Char)
  | 0, _, _ => none
  | fuel + 1, depth, text =>
    match skipSpace text with
    | [] => none
    | char :: rest =>
      if char = '"' then
        (parseString rest).map fun result => (.string (String.ofList result.1), result.2)
      else if char = '[' then
        match depth with
        | 0 => none
        | depth + 1 => parseArray floats fuel depth rest
      else if char = '{' then
        match depth with
        | 0 => none
        | depth + 1 => parseObject floats fuel depth rest
      else if char = 'n' then
        if ['u', 'l', 'l'].isPrefixOf rest then some (.null, rest.drop 3) else none
      else if char = 't' then
        if ['r', 'u', 'e'].isPrefixOf rest then some (.bool true, rest.drop 3) else none
      else if char = 'f' then
        if ['a', 'l', 's', 'e'].isPrefixOf rest then some (.bool false, rest.drop 4) else none
      else (parseNumber floats (char :: rest)).map fun result => (.number result.1, result.2)

def parseArray (floats : FloatText) : Nat → Nat → List Char → Option (Value × List Char)
  | 0, _, _ => none
  | fuel + 1, depth, text =>
    match skipSpace text with
    | [] => none
    | char :: rest =>
      if char = ']' then some (.array [], rest)
      else
        (parseElements floats fuel depth (char :: rest)).map
          fun result => (.array result.1, result.2)

def parseElements (floats : FloatText) : Nat → Nat → List Char → Option (List Value × List Char)
  | 0, _, _ => none
  | fuel + 1, depth, text =>
    match parseValue floats fuel depth text with
    | none => none
    | some (value, after) =>
      match skipSpace after with
      | [] => none
      | char :: rest =>
        if char = ',' then
          (parseElements floats fuel depth rest).map
            fun result => (value :: result.1, result.2)
        else if char = ']' then some ([value], rest)
        else none

def parseObject (floats : FloatText) : Nat → Nat → List Char → Option (Value × List Char)
  | 0, _, _ => none
  | fuel + 1, depth, text =>
    match skipSpace text with
    | [] => none
    | char :: rest =>
      if char = '}' then some (.object [], rest)
      else
        (parseFields floats fuel depth (char :: rest)).map
          fun result => (.object result.1, result.2)

def parseFields (floats : FloatText) :
    Nat → Nat → List Char → Option (List (String × Value) × List Char)
  | 0, _, _ => none
  | fuel + 1, depth, text =>
    match skipSpace text with
    | [] => none
    | quote :: keyText =>
      if quote = '"' then
        match parseString keyText with
        | none => none
        | some (key, afterKey) =>
          match skipSpace afterKey with
          | [] => none
          | colon :: valueText =>
            if colon = ':' then
              match parseValue floats fuel depth valueText with
              | none => none
              | some (value, after) =>
                match skipSpace after with
                | [] => none
                | char :: rest =>
                  if char = ',' then
                    (parseFields floats fuel depth rest).map fun result =>
                      ((String.ofList key, value) :: result.1, result.2)
                  else if char = '}' then
                    some ([(String.ofList key, value)], rest)
                  else none
            else none
      else none

end

def fuelFor (text : List Char) : Nat := 2 * text.length + 2

def parseDocument (floats : FloatText) (text : List Char) : Option Value :=
  match parseValue floats (fuelFor text) nestingLimit text with
  | none => none
  | some (value, rest) => if skipSpace rest = [] then some value else none

end QuantaWatch.Lib.Json
