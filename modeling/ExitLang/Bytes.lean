/-!
# Byte strings

Sources, paths, tool output and every text this library prints are byte strings. Most are UTF-8, but
none has to be: a stray byte in a file name or in a source passes through unharmed wherever the text
is only carried along.
-/

namespace ExitLang

/-- A byte string. -/
abbrev Bytes := List UInt8

/-- The UTF-8 bytes of a text. -/
def utf8 (text : String) : Bytes := text.toUTF8.data.toList

/-- The maximal stretches of a list that hold no mark. There is one more stretch than there are
marks, so the stretches joined by marks are the list again. -/
def splitWhere {α : Type} (isMark : α → Bool) : List α → List (List α)
  | [] => [[]]
  | a :: rest =>
    if isMark a then [] :: splitWhere isMark rest
    else
      match splitWhere isMark rest with
      | [] => [[a]]
      | stretch :: more => (a :: stretch) :: more

theorem splitWhere_ne_nil {α : Type} (isMark : α → Bool) (list : List α) :
    splitWhere isMark list ≠ [] := by
  cases list with
  | nil => simp [splitWhere]
  | cons a rest =>
    rw [splitWhere]
    split
    · simp
    · split <;> simp

namespace Bytes

/-- The stretches between the occurrences of one byte. -/
def splitOn (mark : UInt8) (text : Bytes) : List Bytes := splitWhere (· == mark) text

/-- What stands before the first occurrence of `mark`, or the whole text where it does not occur.
The empty mark occurs at the front of every text. -/
def before (mark : Bytes) : Bytes → Bytes
  | [] => []
  | b :: rest => if mark.isPrefixOf (b :: rest) then [] else b :: before mark rest

/-- The text after a `mark` at its front. -/
def dropMark? (mark text : Bytes) : Option Bytes :=
  if mark.isPrefixOf text then some (text.drop mark.length) else none

/-- The texts in order with `mark` between neighbours. -/
def joinWith (mark : Bytes) (texts : List Bytes) : Bytes := mark.intercalate texts

/-- The stretches with the mark between them are the text again. -/
theorem joinWith_splitOn (mark : UInt8) (text : Bytes) :
    joinWith [mark] (splitOn mark text) = text := by
  induction text with
  | nil => rfl
  | cons b rest ih =>
    have hne := splitWhere_ne_nil (· == mark) rest
    unfold splitOn joinWith at ih ⊢
    rw [splitWhere]
    cases hsplit : splitWhere (· == mark) rest with
    | nil => exact absurd hsplit hne
    | cons stretch more =>
      rw [hsplit] at ih
      by_cases hb : b = mark
      · subst hb
        simpa [List.intercalate] using ih
      · cases more <;> simp_all [List.intercalate]

/-- An ASCII digit. -/
def isDigit (b : UInt8) : Bool := 0x30 ≤ b && b ≤ 0x39

end Bytes

/-- The decimal digits of a natural number, without leading zeros. -/
def decimalNat (n : Nat) : Bytes := (Nat.toDigits 10 n).map fun digit => UInt8.ofNat digit.toNat

/-- The decimal notation of an integer. -/
def decimal : Int → Bytes
  | .ofNat n => decimalNat n
  | .negSucc n => utf8 "-" ++ decimalNat (n + 1)

end ExitLang
