import Mathlib.Data.List.Basic

/-! # Trimming and emptiness of text as JavaScript defines them -/

namespace Wardroom.Library.Text

/-- White space and line terminators, which `trim` removes. -/
def isSpace (c : Char) : Bool :=
  let n := c.toNat
  (9 ≤ n && n ≤ 13) || n = 0x20 || n = 0xA0 || n = 0x1680 || (0x2000 ≤ n && n ≤ 0x200A) ||
    n = 0x2028 || n = 0x2029 || n = 0x202F || n = 0x205F || n = 0x3000 || n = 0xFEFF

def trim (s : String) : String :=
  String.ofList ((s.toList.dropWhile isSpace).reverse.dropWhile isSpace).reverse

/-- `!s.trim()`. -/
def blank (s : String) : Bool := s.toList.all isSpace

/-- `value?.trim() || null`. -/
def trimmed (value : Option String) : Option String :=
  (value.map trim).filter fun s => s ≠ ""

/-- A text that is present and not empty. -/
def given (value : Option String) : Bool := value.any fun s => s ≠ ""

/-- `Buffer.from(s)`. -/
def utf8 (s : String) : List UInt8 := s.toList.flatMap String.utf8EncodeChar

end Wardroom.Library.Text
