import StringsAudit.Text.CasingTable

/-!
# Characters that differ by case alone

## Main definitions

* `caseVariants` : the other characters with the same simple case folding.
-/

namespace StringsAudit
namespace Text

/-- The partners of a code point in a run of case pairs. -/
def CaseRun.partners (run : CaseRun) (n : Nat) : List Nat :=
  let isFirst (m : Nat) : Bool :=
    run.first ≤ m && m ≤ run.last && (m - run.first) % run.step == 0
  (if isFirst n then [n + run.distance] else [])
    ++ (if run.distance ≤ n && isFirst (n - run.distance) then [n - run.distance] else [])

/-- The other characters with the same simple case folding as a character. -/
def caseVariants (c : Char) : List Char :=
  let n := c.toNat
  (caseRuns.flatMap (·.partners n)
    ++ caseClusters.flatMap fun cluster =>
        if cluster.contains n then cluster.filter (· != n) else []).map Char.ofNat

end Text
end StringsAudit
