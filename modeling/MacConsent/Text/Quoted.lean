import MacConsent.Text.GraphemeExtend
import MacConsent.Text.Unprintable

/-!
# MacConsent.Text.Quoted

A text in quotes, for messages. Tab, line feed, carriage return, NUL, the
backslash and the quote have a short escape; a mark that attaches to the
character before it, or a character that has no printed form, is given by its
code point in hexadecimal digits. All else stands for itself.
-/

namespace MacConsent.Text

/-- The escape of a character by its code point. -/
def codePointEscape (c : Char) : List Char :=
  ['\\', 'u', '\x7b'] ++ Nat.toDigits 16 c.toNat ++ ['\x7d']

/-- Whether a character is a mark on the one before it. The sound marks of halfwidth katakana
attach as well, but they are letters. -/
def isMark (c : Char) : Bool := isGraphemeExtend c && c != '\uff9e' && c != '\uff9f'

/-- A character inside quotes. -/
def quotedChar (c : Char) : List Char :=
  if c = '\x00' then ['\\', '0']
  else if c = '\t' then ['\\', 't']
  else if c = '\r' then ['\\', 'r']
  else if c = '\n' then ['\\', 'n']
  else if c = '"' then ['\\', '"']
  else if c = '\\' then ['\\', '\\']
  else if isMark c || isUnprintable c then codePointEscape c
  else [c]

/-- A text in quotes. -/
def quoted (s : String) : String :=
  String.ofList ('"' :: s.toList.flatMap quotedChar ++ ['"'])

/-- A text that may be absent. -/
def quoted? : Option String → String
  | none => "None"
  | some s => "Some(" ++ quoted s ++ ")"

end MacConsent.Text
