import SubgraphLauncher.Decimal.Binary

/-!
# Moments

Everything that is timed uses one type of moments and durations: it is added, subtracted, compared
with and without equality, and shown to six significant digits. The program runs on doubles; the
rationals are the same arithmetic without rounding.
-/

namespace SubgraphLauncher

class Moment (τ : Type) extends Zero τ, Add τ, Sub τ, LE τ, LT τ where
  decidableLE : DecidableLE τ
  decidableLT : DecidableLT τ
  brief : τ → String

instance instDecidableLEMoment {τ : Type} [Moment τ] : DecidableLE τ := Moment.decidableLE

instance instDecidableLTMoment {τ : Type} [Moment τ] : DecidableLT τ := Moment.decidableLT

instance : Moment Float where
  decidableLE := inferInstance
  decidableLT := inferInstance
  brief := Decimal.briefText

instance : Moment Rat where
  toZero := ⟨0⟩
  decidableLE := inferInstance
  decidableLT := inferInstance
  brief v := String.ofList (Decimal.briefRational v)

/-- The second duration where it is shorter, and the first otherwise. -/
def shorter {τ : Type} [Moment τ] (a b : τ) : τ := if b < a then b else a

end SubgraphLauncher
