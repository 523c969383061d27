import SubgraphLauncher.Text.Printable
import SubgraphLauncher.Text.Surrogate

/-!
# Quoted texts

A quoted text shows every character of a text on one line: what cannot be printed is written by its
code point, half of a surrogate pair by its own number, and the delimiting quote is chosen so that
as few quotes as possible need a backslash.
-/

namespace SubgraphLauncher.Text

def apostrophe : Char := '\x27'

/-- A text is put in double quotes when it holds a single quote and no double one. -/
def delimiter (s : List Char) : Char :=
  if s.contains apostrophe && !s.contains '"' then '"' else apostrophe

def hex (width n : Nat) : List Char :=
  let digits := Nat.toDigits 16 n
  List.replicate (width - digits.length) '0' ++ digits

def escape (quote c : Char) : List Char :=
  if c = quote ∨ c = '\\' then ['\\', c]
  else if c = '\n' then ['\\', 'n']
  else if c = '\r' then ['\\', 'r']
  else if c = '\t' then ['\\', 't']
  else if isPrintable c then [c]
  else if c.toNat < 0x100 then '\\' :: 'x' :: hex 2 c.toNat
  else if c.toNat < 0x10000 then '\\' :: 'u' :: hex 4 c.toNat
  else '\\' :: 'U' :: hex 8 c.toNat

def quote (s : List Char) : List Char :=
  let q := delimiter s
  q :: s.flatMap (escape q) ++ [q]

def quoted (s : String) : String := String.ofList (quote s.toList)

def escapeSymbol (quote : Char) : Symbol → List Char
  | .char c => escape quote c
  | .half n => '\\' :: 'u' :: hex 4 n

def quotedSymbols (symbols : List Symbol) : String :=
  let q := delimiter (symbols.filterMap Symbol.char?)
  String.ofList (q :: symbols.flatMap (escapeSymbol q) ++ [q])

end SubgraphLauncher.Text
