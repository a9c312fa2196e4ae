import Mathlib.Data.List.DropRight

/-! # Text

Operations of the language on strings, by their characters. -/
namespace ProviderPlatform

/-- A white space or line terminator of the language, as `\s` and `trim` have it. -/
def isJsSpace (c : Char) : Bool :=
  let code := c.val.toNat
  (9 ≤ code && code ≤ 13) || (0x2000 ≤ code && code ≤ 0x200A) ||
    [0x20, 0xA0, 0x1680, 0x2028, 0x2029, 0x202F, 0x205F, 0x3000, 0xFEFF].contains code

def jsTrim (text : List Char) : List Char :=
  ((text.dropWhile isJsSpace).reverse.dropWhile isJsSpace).reverse

/-- `text.startsWith(start)`. -/
def beginsWith (text start : String) : Bool := start.toList.isPrefixOf text.toList

/-- `text.endsWith(ending)`. -/
def finishesWith (text ending : String) : Bool := ending.toList.isSuffixOf text.toList

/-- `text.replace(/\/+$/, "")`. -/
def stripSlashes (text : String) : String := String.ofList (text.toList.rdropWhile (· == '/'))

end ProviderPlatform
