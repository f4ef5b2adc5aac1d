/-! Sets of characters given as runs of code points. -/
namespace Strongbox.Text

/-- First and last code point of each run. -/
abbrev Runs := List (Nat × Nat)

def Runs.holds (runs : Runs) (c : Char) : Bool :=
  runs.any fun (first, last) => first ≤ c.toNat && c.toNat ≤ last

end Strongbox.Text
