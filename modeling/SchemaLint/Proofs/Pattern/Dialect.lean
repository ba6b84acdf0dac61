import SchemaLint.Pattern.Dialect
import SchemaLint.Proofs.Pattern.Matcher
import SchemaLint.Proofs.Pattern.Reader

/-!
# The dialect finds leftmost matches

The patterns of the dialect have rules for what they match, and its matcher keeps to
them for the patterns that its reader gives. So it is an engine of the kind that
results about matches ask for.
-/

namespace SchemaLint.Pattern

/-- Whether a pattern matches the stretch of a text between two positions inside it. -/
def MatchesWithin (p : Pattern) (t : Text) (i j : Nat) : Prop := i ≤ t.length ∧ Matches t p i j

theorem compile_dialect_eq_ok_iff {t : Text} {p : Pattern} :
    dialect.compile t = .ok p ↔ read? t = some p := by
  unfold dialect
  dsimp only
  cases read? t with
  | none => simp
  | some q => rw [Except.ok.injEq, Option.some.injEq]

theorem dialect_findsLeftmost : dialect.FindsLeftmost MatchesWithin := by
  intro entry p compiled t i
  have bounded : p.Bounded := bounded_of_read? (compile_dialect_eq_ok_iff.mp compiled)
  show p.leftmost? t = some i ↔ _
  rw [leftmost?_eq_some_iff bounded]
  constructor
  · rintro ⟨inside, ⟨j, matched⟩, before⟩
    refine ⟨⟨j, inside, matched⟩, fun k j other => ?_⟩
    exact Nat.le_of_not_lt fun earlier => before k earlier ⟨j, other.2⟩
  · rintro ⟨⟨j, inside, matched⟩, least⟩
    refine ⟨inside, ⟨j, matched⟩, ?_⟩
    rintro k earlier ⟨j, other⟩
    exact absurd (least k j ⟨by omega, other⟩) (Nat.not_le_of_lt earlier)

end SchemaLint.Pattern
