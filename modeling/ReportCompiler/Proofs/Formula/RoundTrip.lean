import ReportCompiler.Proofs.Formula.Parsing
import ReportCompiler.Proofs.Formula.Scanning

/-!
# Formulas written and read back

A formula that is written without blanks and then split and parsed, its references answered by a
function, is the expression that its author had in mind.  Signs are told from operators, exponents
from sums, quotes and sheets are kept together, and nothing is grouped in another way.

The answers must leave every call something to work on.  A range may well be answered by a list
without members, and a function whose arguments have none between them is refused.

## Main results

* `Term.parseFormula_written` - **a written formula is read as its expression.**
* `Term.sum_of_nothing_refused` - a sum over a range without members is not.
-/

namespace ReportCompiler.Formula.Term

/-- **A well-formed formula, written behind an equals sign, is split into tokens and parsed as its
expression**, whatever function answers its references, as long as the answers are lists exactly for
ranges and leave every call but a choice some member. -/
theorem parseFormula_written (f : Term) (ρ : String → Expr) (hwf : f.wellFormed)
    (htop : f.isRange = false) (hsuits : f.suits ρ) (hsupplied : f.supplied ρ) :
    ∃ ts, tokenize ("=" ++ String.ofList f.written) = .ok ts ∧
      ∀ {m : Type → Type} [Monad m] [LawfulMonad m] (raise : Fault → m Expr),
        (parseFormula ts).run (fun reference => pure (ρ reference)) raise = pure (f.expr ρ) := by
  refine ⟨f.tokens, tokenize_written hwf, fun raise => Reading.run_of_answered raise ?_⟩
  -- nothing follows the last token, so the whole list is one expression
  have hread := (f.written_tokens hwf hsuits hsupplied).expression f.strength_pos f.strength_le
    (stops_nil 1)
  rw [List.append_nil] at hread
  exact parseFormula_answered hread (not_isList_expr hsuits htop)

/-- The formula `IF(-A1%>=1.5E+2,"say ""hi""",SUM('It''s'!$B$1:B2,rate)-2*(x+1)^-3)`. -/
def guardedDifference : Term :=
  let a1 := reference (.cell none ⟨false, ['A'], false, ['1']⟩)
  let range := reference
    (.range (some "It's") ⟨true, ['B'], true, ['1']⟩ ⟨false, ['B'], false, ['2']⟩)
  let limit := number ⟨['1'], some ['5'], some (false, ['2'])⟩
  let whole (digit : Char) := number ⟨[digit], none, none⟩
  let base := group (.binary .add (reference (.name "x")) (whole '1'))
  .call .if
    [.binary .ge (.percent (.sign .neg a1)) limit,
     .text "say \"hi\"",
     .binary .sub (.call .sum [range, reference (.name "rate")])
       (.binary .mul (whole '2') (.binary .pow base (.sign .neg (whole '3'))))]

/-- Two cells for the range, and a variable for every other reference. -/
def twoCells (reference : String) : Expr :=
  if reference = "'It''s'!$B$1:B2" then .list [.var "b1", .var "b2"] else .var reference

theorem parseFormula_written_guardedDifference :
    guardedDifference.wellFormed ∧ guardedDifference.isRange = false ∧
      guardedDifference.suits twoCells ∧ guardedDifference.supplied twoCells ∧
        ∃ ts,
          tokenize "=IF(-A1%>=1.5E+2,\"say \"\"hi\"\"\",SUM('It''s'!$B$1:B2,rate)-2*(x+1)^-3)" =
            .ok ts ∧
          (parseFormula ts).run (fun reference => pure (twoCells reference)) .error =
            (pure (guardedDifference.expr twoCells) : Except Fault Expr) := by
  have hwf : guardedDifference.wellFormed := by decide
  have hsuits : guardedDifference.suits twoCells := by decide
  have hsupplied : guardedDifference.supplied twoCells := by decide
  have htext : "=" ++ String.ofList guardedDifference.written =
      "=IF(-A1%>=1.5E+2,\"say \"\"hi\"\"\",SUM('It''s'!$B$1:B2,rate)-2*(x+1)^-3)" := by
    decide
  obtain ⟨ts, htokens, hrun⟩ :=
    parseFormula_written guardedDifference twoCells hwf rfl hsuits hsupplied
  rw [htext] at htokens
  exact ⟨hwf, rfl, hsuits, hsupplied, ts, htokens, hrun (m := Except Fault) .error⟩

/-- The formula `SUM(A1:A2)`. -/
def sumOfRange : Term :=
  .call .sum [.reference (.range none ⟨false, ['A'], false, ['1']⟩ ⟨false, ['A'], false, ['2']⟩)]

/-- The answer to every reference is a list without members. -/
def nothing : String → Expr :=
  fun _ => .list []

/-- A sum over a range without members is refused, though the formula is well formed and its range
is answered by a list. -/
theorem sum_of_nothing_refused :
    sumOfRange.wellFormed ∧ sumOfRange.isRange = false ∧ sumOfRange.suits nothing ∧
      "=" ++ String.ofList sumOfRange.written = "=SUM(A1:A2)" ∧
        ∃ ts, tokenize "=SUM(A1:A2)" = .ok ts ∧
          (parseFormula ts).run (fun reference => pure (nothing reference)) .error =
            (.error (.malformed (.noArguments .sum)) : Except Fault Expr) ∧
          (parseFormula ts).run (fun reference => pure (nothing reference)) .error ≠
            (pure (sumOfRange.expr nothing) : Except Fault Expr) := by
  have hwf : sumOfRange.wellFormed := by decide
  have htext : "=" ++ String.ofList sumOfRange.written = "=SUM(A1:A2)" := by decide
  have hrun : (parseFormula sumOfRange.tokens).run (fun reference => pure (nothing reference))
      .error = (.error (.malformed (.noArguments .sum)) : Except Fault Expr) := by
    with_unfolding_all rfl
  refine ⟨hwf, rfl, rfl, htext, sumOfRange.tokens, htext ▸ tokenize_written hwf, hrun, ?_⟩
  rw [hrun]
  exact nofun

end ReportCompiler.Formula.Term
