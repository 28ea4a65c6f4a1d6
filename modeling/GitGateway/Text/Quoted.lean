import GitGateway.Text.Combining
import GitGateway.Text.Hex
import GitGateway.Text.Unprintable

/-!
# Quoted text

Messages quote text from outside so that it stays on one line and shows every
character: between double quotes, with short escapes for the common control
characters and the quote itself, and `\u{…}` for all else that would not show.
-/

namespace GitGateway

namespace Quoted

/-- One character as it stands between the quotes. -/
def escape (c : Char) : List Char :=
  if c = '"' then ['\\', '"']
  else if c = '\\' then ['\\', '\\']
  else if c = '\n' then ['\\', 'n']
  else if c = '\r' then ['\\', 'r']
  else if c = '\t' then ['\\', 't']
  else if c = '\x00' then ['\\', '0']
  else if isUnprintable c || isCombining c then
    ['\\', 'u', '\x7b'] ++ Hex.numeral c.toNat ++ ['\x7d']
  else [c]

/-- The text between quotes. -/
def render (text : String) : String :=
  String.ofList ('"' :: text.toList.flatMap escape ++ ['"'])

end Quoted

end GitGateway
