import Gamebook.Json.Basic

/-!
# Writing JSON

Two layouts of one format. The line layout puts a space after each comma and colon; the block
layout puts every item on a line of its own, two spaces further in than what holds it. Only the
double quote, the backslash and the controls below U+0020 are escaped.
-/

namespace Gamebook.Json

def escape (c : Char) : List Char :=
  if c = '"' then ['\\', '"']
  else if c = '\\' then ['\\', '\\']
  else if c = '\n' then ['\\', 'n']
  else if c = '\r' then ['\\', 'r']
  else if c = '\t' then ['\\', 't']
  else if c = '\x08' then ['\\', 'b']
  else if c = '\x0c' then ['\\', 'f']
  else if c.toNat < 0x20 then '\\' :: 'u' :: Text.hex 4 c.toNat
  else [c]

def quoteChars (s : String) : List Char := '"' :: s.toList.flatMap escape ++ ['"']

/-- A number, the ones off the line by name. -/
def numberChars : Number → List Char
  | .double (.infinite false) => "Infinity".toList
  | .double (.infinite true) => "-Infinity".toList
  | .double .nan => "NaN".toList
  | n => n.text

mutual

def lineChars : Json → List Char
  | null => "null".toList
  | bool true => "true".toList
  | bool false => "false".toList
  | number n => numberChars n
  | string s => quoteChars s
  | garbled g => quoteChars g.shown
  | array items => '[' :: lineItems items ++ [']']
  | object fields => '\x7b' :: lineFields fields ++ ['\x7d']
  | keyed _ j => lineChars j

def lineItems : List Json → List Char
  | [] => []
  | [j] => lineChars j
  | j :: items => lineChars j ++ ", ".toList ++ lineItems items

def lineFields : List (String × Json) → List Char
  | [] => []
  | [(key, j)] => quoteChars key ++ ": ".toList ++ lineChars j
  | (key, j) :: fields =>
    quoteChars key ++ ": ".toList ++ lineChars j ++ ", ".toList ++ lineFields fields

end

def newLine (depth : Nat) : List Char := '\n' :: List.replicate (2 * depth) ' '

mutual

def blockChars (depth : Nat) : Json → List Char
  | null => "null".toList
  | bool true => "true".toList
  | bool false => "false".toList
  | number n => numberChars n
  | string s => quoteChars s
  | garbled g => quoteChars g.shown
  | array [] => "[]".toList
  | array items =>
    '[' :: newLine (depth + 1) ++ blockItems (depth + 1) items ++ newLine depth ++ [']']
  | object [] => ['\x7b', '\x7d']
  | object fields =>
    '\x7b' :: newLine (depth + 1) ++ blockFields (depth + 1) fields ++ newLine depth ++ ['\x7d']
  | keyed _ j => blockChars depth j

def blockItems (depth : Nat) : List Json → List Char
  | [] => []
  | [j] => blockChars depth j
  | j :: items => blockChars depth j ++ ',' :: newLine depth ++ blockItems depth items

def blockFields (depth : Nat) : List (String × Json) → List Char
  | [] => []
  | [(key, j)] => quoteChars key ++ ": ".toList ++ blockChars depth j
  | (key, j) :: fields =>
    quoteChars key ++ ": ".toList ++ blockChars depth j ++ ',' :: newLine depth ++
      blockFields depth fields

end

def toLine (j : Json) : String := String.ofList j.lineChars

def toBlock (j : Json) : String := String.ofList (j.blockChars 0)

def quote (s : String) : String := String.ofList (quoteChars s)

end Gamebook.Json
