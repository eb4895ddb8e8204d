import Mathlib.Tactic.Common

/-! # Text that a file can hold -/

namespace VaultKern

/-- The characters that XML 1.0 allows. -/
def isXml10Character (c : Char) : Bool :=
  c.val = 0x9 || c.val = 0xa || c.val = 0xd || (0x20 ≤ c.val && c.val ≤ 0xd7ff)
    || (0xe000 ≤ c.val && c.val ≤ 0xfffd) || (0x10000 ≤ c.val && c.val ≤ 0x10ffff)

def isXml10Text (value : String) : Bool := value.toList.all isXml10Character

/-- `char::is_whitespace`: the Unicode property `White_Space`. -/
def isWhitespace (c : Char) : Bool :=
  (0x9 ≤ c.val && c.val ≤ 0xd) || c.val = 0x20 || c.val = 0x85 || c.val = 0xa0 || c.val = 0x1680
    || (0x2000 ≤ c.val && c.val ≤ 0x200a) || c.val = 0x2028 || c.val = 0x2029 || c.val = 0x202f
    || c.val = 0x205f || c.val = 0x3000

/-- `str::trim`. -/
def trimText (text : String) : String :=
  String.ofList ((text.toList.dropWhile isWhitespace).reverse.dropWhile isWhitespace).reverse

/-- Seconds between the epochs of KDBX 4 and of Unix. -/
def kdbx4TimeOffset : Int := 62135596800

end VaultKern
