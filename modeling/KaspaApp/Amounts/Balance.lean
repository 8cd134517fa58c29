import Mathlib.Data.UInt
import KaspaApp.Library.WrappingSums
import KaspaApp.Session.Signing
import KaspaApp.Wire.Transactions

/-! The balance check and the displayed fee, compared with sums of unbounded integers. Both
sums wrap at 2^64, and nothing tells a wrapped total from a small one.
-/

namespace KaspaApp

open WrappingSums

variable {target : Target}

/-- The sum of all declared input values, in unbounded integers. -/
def Transaction.inputTotal (tx : Transaction target) : Nat :=
  (tx.declaredInputs.map fun txin => txin.value.toNat).sum

def Transaction.outputTotal (tx : Transaction target) : Nat :=
  (tx.declaredOutputs.map fun txout => txout.value.toNat).sum

/-- Inside its array, a loop over the inputs meets the declared inputs. -/
theorem inputTotal_eq_total {tx : Transaction target} (counted : tx.Counted) (stray : Stray)
    : uint64.total (fun i => (tx.input stray i).value) (List.range tx.txInputLen.toNat)
      = tx.inputTotal := by
  rw [Transaction.inputTotal, ← map_input_eq_declaredInputs counted stray, List.map_map]
  rfl

theorem outputTotal_eq_total {tx : Transaction target} (counted : tx.Counted) (stray : Stray)
    : uint64.total (fun o => (tx.output stray o).value) (List.range tx.txOutputLen.toNat)
      = tx.outputTotal := by
  rw [Transaction.outputTotal, ← map_output_eq_declaredOutputs counted stray, List.map_map]
  rfl

theorem wrappedInputs_toNat {tx : Transaction target} (counted : tx.Counted) (stray : Stray)
    : (tx.wrappedInputs stray).toNat = tx.inputTotal % 2 ^ 64 := by
  have summed := uint64.value_foldl_add (fun i => (tx.input stray i).value)
    (List.range tx.txInputLen.toNat) 0
  rw [inputTotal_eq_total counted stray] at summed
  rw [Transaction.wrappedInputs]
  simpa [uint64] using summed

theorem wrappedOutputs_toNat {tx : Transaction target} (counted : tx.Counted) (stray : Stray)
    : (tx.wrappedOutputs stray).toNat = tx.outputTotal % 2 ^ 64 := by
  have summed := uint64.value_foldl_add (fun o => (tx.output stray o).value)
    (List.range tx.txOutputLen.toNat) 0
  rw [outputTotal_eq_total counted stray] at summed
  rw [Transaction.wrappedOutputs]
  simpa [uint64] using summed

/-- The fee and the true output total make up the true input total, modulo 2^64. -/
theorem calcFees_add_outputTotal {tx : Transaction target} (counted : tx.Counted)
    (stray : Stray)
    : ((calcFees stray tx).toNat + tx.outputTotal) % 2 ^ 64 = tx.inputTotal % 2 ^ 64 := by
  have subtracted := uint64.value_foldl_sub (fun o => (tx.output stray o).value)
    (List.range tx.txOutputLen.toNat) (tx.wrappedInputs stray)
  rw [outputTotal_eq_total counted stray] at subtracted
  exact subtracted.trans (wrappedInputs_toNat counted stray)

/-- What validation lets through is covered by its inputs, and the fee shown is the rest. -/
def BalanceExact (env : Env) (ctx : GlobalCtx target) : Prop :=
  (txValidateParsedTransaction env ctx).1 = true
    → ctx.txInfo.transaction.outputTotal ≤ ctx.txInfo.transaction.inputTotal
      ∧ ∀ stray,
          (calcFees stray ctx.txInfo.transaction).toNat
          = ctx.txInfo.transaction.inputTotal - ctx.txInfo.transaction.outputTotal

/-- Where the change key passes and the totals modulo 2^64 are in balance, both totals contain
2^64 equally often.
-/
def WrapsAlike (env : Env) (ctx : GlobalCtx target) : Prop :=
  ChangeChecked env ctx
    → ctx.txInfo.transaction.outputTotal % 2 ^ 64 ≤ ctx.txInfo.transaction.inputTotal % 2 ^ 64
    → ctx.txInfo.transaction.inputTotal / 2 ^ 64
      = ctx.txInfo.transaction.outputTotal / 2 ^ 64

instance (env : Env) (ctx : GlobalCtx target) : Decidable (WrapsAlike env ctx) := by
  unfold WrapsAlike
  infer_instance

/-- With counts in range, validation is left with the change key and the wrapped totals. -/
theorem validated_iff {env : Env} {ctx : GlobalCtx target}
    (counted : ctx.txInfo.transaction.Counted)
    : (txValidateParsedTransaction env ctx).1 = true
      ↔ ChangeChecked env ctx
        ∧ ctx.txInfo.transaction.outputTotal % 2 ^ 64
          ≤ ctx.txInfo.transaction.inputTotal % 2 ^ 64 := by
  rw [txValidate_iff, ← wrappedOutputs_toNat counted (env.stray .txValidate),
    ← wrappedInputs_toNat counted (env.stray .txValidate), ← UInt64.le_iff_toNat_le]
  constructor
  · intro validated
    exact ⟨validated.change, validated.covered⟩
  · rintro ⟨change, covered⟩
    refine ⟨?_, ?_, ?_, change, covered⟩
    · exact UInt32.le_iff_toNat_le.mpr counted.outputsLe
    · exact UInt32.le_iff_toNat_le.mpr counted.outputsPos
    · exact UInt32.le_iff_toNat_le.mpr counted.inputsPos

/-- The balance check and the fee are exact exactly when the two totals wrap alike. -/
theorem balanceExact_iff (env : Env) (ctx : GlobalCtx target)
    (counted : ctx.txInfo.transaction.Counted)
    : BalanceExact env ctx ↔ WrapsAlike env ctx := by
  rw [BalanceExact, WrapsAlike, validated_iff counted, and_imp]
  refine forall_congr' fun change => forall_congr' fun covered => ?_
  have exact (stray : Stray) :=
    exact_difference_iff (calcFees stray ctx.txInfo.transaction).toNat_lt
      (calcFees_add_outputTotal counted stray) covered
  constructor
  · rintro ⟨enough, fees⟩
    exact (exact (env.stray .uiDisplay)).mp ⟨enough, fees _⟩
  · intro alike
    exact ⟨((exact (env.stray .uiDisplay)).mpr alike).1, fun stray => ((exact stray).mpr alike).2⟩

/-- A parsed transaction with the given values. -/
def valued (inputs outputs : List UInt64) : GlobalCtx .nanos :=
  let header := plainHeader (UInt8.ofNat outputs.length) (UInt8.ofNat inputs.length)
  (GlobalCtx.cleared .nanos .confirmTransaction).withHeader
    (parsedTransaction .nanos header (inputs.map plainInput) (outputs.map plainOutput)) header.path

theorem balanceExact_iff_sample : BalanceExact .succeeding (valued [2 ^ 63, 2 ^ 63 - 1] [7, 8]) :=
  (balanceExact_iff _ _ ⟨by decide, by decide, by decide, by decide⟩).mpr (by decide +kernel)

/-- An input of 5 passes for outputs of 2^64 - 1 and 5, with a fee of 1. -/
theorem validates_overspending
    : ¬ ∀ (env : Env) (ctx : GlobalCtx .nanos),
          ctx.txInfo.transaction.Counted → BalanceExact env ctx := by
  intro claim
  have passes
      : (txValidateParsedTransaction .succeeding (valued [5] [2 ^ 64 - 1, 5])).1 = true := by
    decide +kernel
  have covered := (claim .succeeding (valued [5] [2 ^ 64 - 1, 5])
    ⟨by decide, by decide, by decide, by decide⟩ passes).1
  exact absurd covered (by decide +kernel)

end KaspaApp
