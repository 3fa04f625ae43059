import Courier.Text.Quoted

/-!
# Text for terminals

A terminal obeys some controls instead of showing them. In text that comes from elsewhere these
are spelled out; tabs, line ends and the harmless controls stay.
-/

namespace Courier.Text

set_option autoImplicit false

/-- The controls below U+0080 that are spelled out: bell, backspace, form feed, escape, delete. -/
def obeyedControls : List Char := ['\x07', '\x08', '\x0c', '\x1b', '\x7f']

def spellControl (c : Char) : String :=
  if obeyedControls.contains c then
    "\\x" ++ (if c.toNat < 0x10 then "0" else "") ++ hexDigits c.toNat
  else if 0x80 ≤ c.toNat && c.toNat ≤ 0x9F then "\\u\x7b" ++ hexDigits c.toNat ++ "\x7d"
  else c.toString

def forTerminal (s : String) : String := String.join (s.toList.map spellControl)

end Courier.Text
