import RouteInventory.Text.Hidden

/-!
# Quoted text in messages

A text between double quotes in which every character can be seen: quotes and backslashes are
escaped, and what cannot be shown is written by its number.
-/

namespace RouteInventory.Text

/-- A number in hexadecimal digits. -/
def hexText (n : Nat) : String := String.ofList (Nat.toDigits 16 n)

/-- A character inside a quoted text. -/
def visible (c : Char) : String :=
  match c with
  | '"' => "\\\""
  | '\\' => "\\\\"
  | '\n' => "\\n"
  | '\r' => "\\r"
  | '\t' => "\\t"
  | '\x00' => "\\0"
  | c =>
    if isHidden c then "\\u\x7b" ++ hexText c.toNat ++ "\x7d"
    else c.toString

/-- A text between quotes. -/
def quoted (s : String) : String := "\"" ++ String.join (s.toList.map visible) ++ "\""

/-- A path between quotes; single quotes are escaped in it as well. -/
def quotedPath (s : String) : String :=
  "\"" ++ String.join (s.toList.map fun c => if c == '\'' then "\\'" else visible c) ++ "\""

end RouteInventory.Text
