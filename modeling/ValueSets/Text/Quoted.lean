import ValueSets.Text.Printable

/-!
# Quoted text and bytes

A text is printed between quotation marks: single ones, unless it holds a single and no double one.
The backslash, the mark itself and unprintable characters are escaped, the latter by their code
point in the least of the widths two, four and eight. Bytes are printed likewise, as ASCII.
-/

set_option autoImplicit false

namespace ValueSets.Text

/-- The apostrophe, which is also the usual quotation mark. -/
def singleMark : Char := '\x27'

/-- The double quotation mark. -/
def doubleMark : Char := '\x22'

/-- The mark that a text is quoted with. -/
def markFor (cs : List Char) : Char :=
  if cs.contains singleMark && !cs.contains doubleMark then doubleMark else singleMark

/-- `n` in lower-case hexadecimal, filled with zeros to `width` digits. -/
def hex (width n : Nat) : List Char :=
  let ds := Nat.toDigits 16 n
  List.replicate (width - ds.length) '0' ++ ds

/-- The escape of a code point that is not printed as it stands. -/
def escapeCode (n : Nat) : List Char :=
  if n ≤ 0xff then '\\' :: 'x' :: hex 2 n
  else if n ≤ 0xffff then '\\' :: 'u' :: hex 4 n
  else '\\' :: 'U' :: hex 8 n

/-- One character inside quotation marks, where `plain` says which characters stand as they are. -/
def quoteChar (plain : Char → Bool) (mark c : Char) : List Char :=
  if c == mark || c == '\\' then ['\\', c]
  else if c == '\n' then ['\\', 'n']
  else if c == '\r' then ['\\', 'r']
  else if c == '\t' then ['\\', 't']
  else if plain c then [c]
  else escapeCode c.toNat

/-- A list of characters between quotation marks. -/
def quoteWith (plain : Char → Bool) (cs : List Char) : String :=
  let mark := markFor cs
  String.ofList (mark :: cs.flatMap (quoteChar plain mark) ++ [mark])

/-- A text between quotation marks. -/
def quote (s : String) : String :=
  quoteWith isPrintable s.toList

/-- Bytes between quotation marks, behind the letter `b`; only printable ASCII stands as it is. -/
def quoteBytes (bs : List UInt8) : String :=
  "b" ++ quoteWith (fun c => 0x20 ≤ c.toNat && c.toNat < 0x7f) (bs.map fun b => Char.ofNat b.toNat)

end ValueSets.Text
