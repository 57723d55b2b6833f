import Criteria.Text.Digits
import Criteria.Unicode.Unprintable
/-!
# Quotations in messages

A text between quotes for a reader: quotes and backslashes are escaped, and characters without a
shape of their own are shown by their number.
-/
namespace Criteria.Text

def shownChar (c : Char) : List Char :=
  match c.toNat with
  | 0 => ['\\', '0']
  | 9 => ['\\', 't']
  | 10 => ['\\', 'n']
  | 13 => ['\\', 'r']
  | n =>
    if c = '"' ∨ c = '\\' then ['\\', c]
    else if Unicode.isUnprintable c then "\\u\x7b".toList ++ hexDigits 1 n ++ ['}']
    else [c]

def quotation (s : String) : String :=
  String.ofList ('"' :: (s.toList.flatMap shownChar ++ ['"']))

end Criteria.Text
