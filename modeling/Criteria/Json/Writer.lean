import Criteria.Value
import Criteria.Text.Digits
/-!
# Writing documents

The compact text of a value and its indented text. Members are written in the order in which the
value holds them.
-/
namespace Criteria.Json

/-- A character inside quotes: only the quote, the backslash and control characters are escaped. -/
def escapeChar (c : Char) : List Char :=
  if c = '"' then ['\\', '"']
  else if c = '\\' then ['\\', '\\']
  else if c.toNat < 0x20 then
    match c.toNat with
    | 8 => ['\\', 'b']
    | 9 => ['\\', 't']
    | 10 => ['\\', 'n']
    | 12 => ['\\', 'f']
    | 13 => ['\\', 'r']
    | n => '\\' :: 'u' :: Text.hexDigits 4 n
  else [c]

def quote (s : String) : List Char :=
  '"' :: (s.toList.flatMap escapeChar ++ ['"'])

mutual

def compact : Value → List Char
  | .null => "null".toList
  | .bool b => (Value.flagText b).toList
  | .number n => n.text
  | .text s => quote s
  | .list items => '[' :: compactItems items
  | .object members => '{' :: compactMembers members

/-- The items of a list and its closing bracket. -/
def compactItems : List Value → List Char
  | [] => [']']
  | [v] => compact v ++ [']']
  | v :: w :: rest => compact v ++ ',' :: compactItems (w :: rest)

/-- The members of an object and its closing brace. -/
def compactMembers : List (String × Value) → List Char
  | [] => ['}']
  | [(k, v)] => quote k ++ ':' :: (compact v ++ ['}'])
  | (k, v) :: m :: rest => quote k ++ ':' :: (compact v ++ ',' :: compactMembers (m :: rest))

end

/-- A new line with two blanks for each level. -/
def newline (level : Nat) : List Char :=
  '\n' :: List.replicate (2 * level) ' '

mutual

/-- The text of a value with one item or member a line; what is empty stays on its line. -/
def indented (level : Nat) : Value → List Char
  | .list [] => ['[', ']']
  | .object [] => ['{', '}']
  | .list items => '[' :: indentedItems (level + 1) items ++ newline level ++ [']']
  | .object members => '{' :: indentedMembers (level + 1) members ++ newline level ++ ['}']
  | .null => "null".toList
  | .bool b => (Value.flagText b).toList
  | .number n => n.text
  | .text s => quote s

def indentedItems (level : Nat) : List Value → List Char
  | [] => []
  | [v] => newline level ++ indented level v
  | v :: w :: rest => newline level ++ indented level v ++ ',' :: indentedItems level (w :: rest)

def indentedMembers (level : Nat) : List (String × Value) → List Char
  | [] => []
  | [(k, v)] => newline level ++ quote k ++ ':' :: ' ' :: indented level v
  | (k, v) :: m :: rest =>
    newline level ++ quote k ++ ':' :: ' ' :: indented level v ++
      ',' :: indentedMembers level (m :: rest)

end

end Criteria.Json

namespace Criteria.Value

def compactText (v : Value) : String :=
  String.ofList (Json.compact v)

def indentedText (v : Value) : String :=
  String.ofList (Json.indented 0 v)

end Criteria.Value
