import PegEngine.Unicode.GraphemeExtend
import PegEngine.Unicode.Unprintable

/-!
# Quoted text

Literals, keys and characters are shown between quotes.  The quote itself, the
backslash, line breaks, tabs and the null character are written with a
backslash, and a code point that has no appearance of its own (it cannot be
printed, it fills a place with nothing, or it would merge with the character
before it) is written by its number, in hexadecimal between braces.
-/

namespace PegEngine

namespace Quoted

/-- The Hangul fillers, which are letters that show nothing. -/
def hangulFillers : CodeSet :=
  CodeSet.ofAscending [(0x115F, 0x1160), (0x3164, 0x3164), (0xFFA0, 0xFFA0)]

/-- The halfwidth voicing marks, which extend the character before them but
stand in a cell of their own. -/
def halfwidthMarks : CodeSet :=
  CodeSet.ofAscending [(0xFF9E, 0xFF9F)]

/-- A code point that would merge with the character before it. -/
def merges (char : Char) : Bool :=
  Unicode.graphemeExtend.contains char && !halfwidthMarks.contains char

/-- A code point that cannot be shown as itself. -/
def isHidden (char : Char) : Bool :=
  merges char || hangulFillers.contains char ||
    Unicode.unprintable.contains char

/-- A code point written by its number. -/
def numbered (char : Char) : List Char :=
  '\\' :: 'u' :: '{' :: Nat.toDigits 16 char.toNat ++ ['}']

/-- One character between the given quotes. -/
def escaped (quote char : Char) : List Char :=
  if char = '\x00' then ['\\', '0']
  else if char = '\t' then ['\\', 't']
  else if char = '\r' then ['\\', 'r']
  else if char = '\n' then ['\\', 'n']
  else if char = '\\' ∨ char = quote then ['\\', char]
  else if isHidden char then numbered char
  else [char]

/-- A string between double quotes. -/
def text (string : String) : String :=
  String.ofList ('"' :: string.toList.flatMap (escaped '"') ++ ['"'])

/-- A character between single quotes. -/
def char (char : Char) : String :=
  String.ofList ('\'' :: escaped '\'' char ++ ['\''])

end Quoted

end PegEngine
