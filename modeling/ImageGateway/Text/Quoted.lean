import ImageGateway.Text.Combining
import ImageGateway.Text.Unprintable

/-! Quoted text for messages. A character that would not be seen as itself is written as an
escape: the quote in use and the backslash, control characters, and from U+0080 on whatever has
no visible form or attaches to its neighbour. -/
namespace ImageGateway.Text

def hexNumeral (n : Nat) : String := String.ofList (Nat.toDigits 16 n)

def within (runs : List (Nat × Nat)) (n : Nat) : Bool :=
  runs.any fun run => run.1 ≤ n && n ≤ run.2

/-- The character stands for itself inside quotes. -/
def isVisible (c : Char) : Bool :=
  if c.toNat < 0x80 then 0x20 ≤ c.toNat && c.toNat < 0x7F
  else !(within combiningRuns c.toNat || within unprintableRuns c.toNat)

def escaped (quote c : Char) : String :=
  if c = quote || c = '\\' then String.ofList ['\\', c]
  else match c with
    | '\t' => "\\t"
    | '\r' => "\\r"
    | '\n' => "\\n"
    | '\x00' => "\\0"
    | _ => if isVisible c then c.toString else "\\u\x7b" ++ hexNumeral c.toNat ++ "\x7d"

def quoted (s : String) : String :=
  "\"" ++ String.join (s.toList.map (escaped '"')) ++ "\""

def quotedChar (c : Char) : String := "'" ++ escaped '\'' c ++ "'"

def quotedList (items : List String) : String :=
  "[" ++ ", ".intercalate (items.map quoted) ++ "]"

end ImageGateway.Text
