import PathRouting.Unicode

/-! Text in double quotes for error reports and log fields. Quotes, backslashes and
the common control characters get a backslash; characters that cannot be seen or
that combine with the one before are written by their code point. -/

namespace PathRouting.Text

/-- Whether a character is written by its code point: control, format, private and
unassigned characters, separators other than the space, and combining characters. -/
def isHidden (c : Char) : Bool :=
  if c.toNat < 127 then c.toNat < 32
  else
    (Unicode.categoryUnion ["cc", "cf", "co", "cn", "zl", "zp", "zs"]).contains c ||
      ((Unicode.lookup? Unicode.properties "graphemeextend").getD CharSet.empty).contains c

/-- A character between quotes; the single quote is escaped on request. -/
def quotedChar (single : Bool) (c : Char) : List Char :=
  match c with
  | '\x00' => ['\\', '0']
  | '\t' => ['\\', 't']
  | '\r' => ['\\', 'r']
  | '\n' => ['\\', 'n']
  | '"' => ['\\', '"']
  | '\\' => ['\\', '\\']
  | '\'' => if single then ['\\', '\''] else ['\'']
  | c =>
    if isHidden c then '\\' :: 'u' :: '\x7b' :: (Nat.toDigits 16 c.toNat ++ ['\x7d']) else [c]

def quoted (text : String) : String :=
  String.ofList ('"' :: (text.toList.flatMap (quotedChar false) ++ ['"']))

def quotedPath (path : String) : String :=
  String.ofList ('"' :: (path.toList.flatMap (quotedChar true) ++ ['"']))

end PathRouting.Text
