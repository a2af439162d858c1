import ExitLang.Text.Symbol
import ExitLang.Unicode.Upper
import ExitLang.Unicode.Lower
import ExitLang.Unicode.Fold

/-!
# Texts up to case

Case is changed code point by code point, and each stray byte becomes the replacement character on
the way.
-/

namespace ExitLang

/-- The text in upper case. -/
def upperCase (text : Bytes) : Bytes := encodeChars ((codePoints text).map Unicode.toUpper)

/-- The text in lower case. -/
def lowerCase (text : Bytes) : Bytes := encodeChars ((codePoints text).map Unicode.toLower)

/-- Whether two texts have the same characters up to case. -/
def sameUpToCase (left right : Bytes) : Bool :=
  (codePoints left).map Unicode.fold == (codePoints right).map Unicode.fold

end ExitLang
