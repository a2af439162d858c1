/-!
# Case mappings as runs

A case mapping moves a code point by a fixed shift along a run: from `first` to `last` in steps of
one, or of two where upper and lower case alternate. Runs are listed by their first code point, and
the search stops at the first run that starts above the code point.
-/

namespace ExitLang.Unicode

/-- The code points `first`, `first + step`, up to `last`, which all move by `shift`. -/
structure CaseRun where
  first : Nat
  last : Nat
  step : Nat
  shift : Int

/-- Whether the run moves the code point. -/
def CaseRun.covers (run : CaseRun) (n : Nat) : Bool :=
  run.first ≤ n && n ≤ run.last && (n - run.first) % run.step == 0

/-- A code point after the mapping that the runs describe; one outside all of them stays. -/
def mapCase : List CaseRun → Nat → Nat
  | [], n => n
  | run :: rest, n =>
    if n < run.first then n
    else if run.covers n then (n + run.shift).toNat
    else mapCase rest n

end ExitLang.Unicode
