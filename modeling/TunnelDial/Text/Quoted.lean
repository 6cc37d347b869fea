import TunnelDial.Text.Numeral
import TunnelDial.Text.Printable

/-! Quoted texts and the diagnostic form of records: a name, then fields in braces. -/
namespace TunnelDial.Text

/-- A character inside quotes: quote and backslash are escaped, the usual control characters have
short forms, and other unprintable ones are written by their code point. -/
def quoteChar (c : Char) : List Char :=
  if c = '"' then ['\\', '"']
  else if c = '\\' then ['\\', '\\']
  else if c = '\n' then ['\\', 'n']
  else if c = '\r' then ['\\', 'r']
  else if c = '\t' then ['\\', 't']
  else if c = '\x00' then ['\\', '0']
  else if isPrintable c then [c]
  else '\\' :: 'u' :: '\x7b' :: (hexadecimal c.toNat ++ ['\x7d'])

def quote (s : String) : String :=
  String.ofList ('"' :: (s.toList.flatMap quoteChar ++ ['"']))

def truth (b : Bool) : String := if b then "true" else "false"

/-- A record with its named fields in order; `open?` adds the mark of further, hidden fields. -/
def record (name : String) (fields : List (String × String)) (open? : Bool) : String :=
  let parts := fields.map (fun f => f.1 ++ ": " ++ f.2) ++ (if open? then [".."] else [])
  if parts.isEmpty then name
  else name ++ " \x7b " ++ ", ".intercalate parts ++ " \x7d"

def applied (name value : String) : String := name ++ "(" ++ value ++ ")"

def optional (value : Option String) : String :=
  match value with
  | some v => applied "Some" v
  | none => "None"

end TunnelDial.Text
