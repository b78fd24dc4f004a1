import JobShell.Text.Utf8

/-!
Bytes as text with one character for each byte. Programs that look at bytes rather than characters
work on this form.
-/

namespace JobShell.Text

def ofBytes (bytes : Bytes) : String :=
  String.ofList (bytes.map fun b => Char.ofNat b.toNat)

/-- The bytes whose characters these are; of any other character the low byte. -/
def rawBytes (text : String) : Bytes :=
  text.toList.map fun c => UInt8.ofNat c.toNat

def raw (text : String) : String :=
  if text.toList.all (·.toNat < 0x80) then text else ofBytes (utf8 text)

/-- The text whose bytes these are; bytes that are no text stay one character each. -/
def ofRaw (text : String) : String :=
  if text.toList.all (·.toNat < 0x80) then text else (decode? (rawBytes text)).getD text

end JobShell.Text
