import ExitLang.Text.Symbol
import ExitLang.Unicode.Blank

/-!
# Trimming and words

A blank is a white-space code point; a stray byte is never one. A text is trimmed of the blanks at
its two ends, and its words are the stretches between blanks.
-/

namespace ExitLang

/-- A white-space symbol. -/
def Symbol.isBlank : Symbol → Bool
  | scalar c => Unicode.isBlank c
  | stray _ => false

/-- A list without the blanks at its two ends. -/
def trimSymbols (symbols : List Symbol) : List Symbol :=
  ((symbols.dropWhile Symbol.isBlank).reverse.dropWhile Symbol.isBlank).reverse

/-- The text without the blanks at its two ends. -/
def trim (text : Bytes) : Bytes := encode (trimSymbols (decode text))

/-- The maximal stretches of a text that hold no blank. -/
def words (text : Bytes) : List Bytes :=
  ((splitWhere Symbol.isBlank (decode text)).filter fun word => !word.isEmpty).map encode

end ExitLang
