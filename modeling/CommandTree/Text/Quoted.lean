import CommandTree.Text.PrintableTable
import CommandTree.Text.Ranges

/-!
# Quoted text

A text is shown between quotation marks: single ones, unless it holds an apostrophe and no double
quotation mark. Backslash, the mark in use and every unprintable character are written as escapes,
the latter by their code point in two, four or eight hexadecimal digits.
-/

namespace CommandTree.Text

def isPrintable (c : Char) : Bool :=
  !inRanges unprintableRanges c.toNat

def apostrophe : Char := Char.ofNat 39
def doubleMark : Char := Char.ofNat 34

/-- The digits of a number in a base up to sixteen, in lower case, at least `width` of them. -/
def digitsIn (base width n : Nat) : List Char :=
  let ds := Nat.toDigits base n
  List.replicate (width - ds.length) '0' ++ ds

/-- What stands for one character between the marks. -/
def escape (mark c : Char) : List Char :=
  if c = mark ∨ c = '\\' then ['\\', c]
  else if c = '\t' then ['\\', 't']
  else if c = '\n' then ['\\', 'n']
  else if c = '\r' then ['\\', 'r']
  else if isPrintable c then [c]
  else if c.toNat < 0x100 then '\\' :: 'x' :: digitsIn 16 2 c.toNat
  else if c.toNat < 0x10000 then '\\' :: 'u' :: digitsIn 16 4 c.toNat
  else '\\' :: 'U' :: digitsIn 16 8 c.toNat

/-- The marks around a text. -/
def markFor (cs : List Char) : Char :=
  if apostrophe ∈ cs ∧ doubleMark ∉ cs then doubleMark else apostrophe

/-- A text as it is shown inside other values. -/
def quote (s : String) : String :=
  let mark := markFor s.toList
  String.ofList (mark :: s.toList.flatMap (escape mark) ++ [mark])

end CommandTree.Text
