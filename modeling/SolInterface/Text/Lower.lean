import SolInterface.Text.Basic
import SolInterface.Text.CapitalRuns

/-!
Text in small letters.
-/
namespace SolInterface.Text

/-- The small letter for a capital one. -/
def lowerChar (c : Char) : Char :=
  let n := c.toNat
  if n < 128 then c.toLower
  else match capitalRuns.find? fun (first, last, step, _) =>
      first ≤ n && n ≤ last && (n - first) % step == 0 with
    | some (first, _, _, small) => Char.ofNat (n - first + small)
    | none => c

/-- The dotted capital I has a small letter of two characters. -/
def lower (t : Text) : Text :=
  t.flatMap fun c => if c.toNat == 0x130 then ['i', Char.ofNat 0x307] else [lowerChar c]

end SolInterface.Text
