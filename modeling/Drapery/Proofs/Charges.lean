import Mathlib.Data.List.Basic
import Drapery.Profitability

/-!
# Every charge is counted once

A bucket lists the rows that have a charge, in their order, and its total adds
their charges up from zero.  An expense is in the bucket of its category, which is
one of two.  What a project contributes is its revenue less the purchases of all
groups and less the totals of the five buckets.
-/

namespace Drapery

def Row.isCharged (key : String) (row : Row) : Bool := row.amount key != 0

def ChargeSource.ofRow (key : String) (row : Row) : ChargeSource :=
  ⟨row.id, ChargeBucket.describe row, row.amount key⟩

namespace ChargeBucket

/-- The bucket has the charges of the rows, each once and in order, and their sum. -/
structure Records (bucket : ChargeBucket) (key : String) (rows : List Row) : Prop where
  sources : bucket.sources = (rows.filter (·.isCharged key)).map (.ofRow key)
  total : bucket.total = (bucket.sources.map (·.amount)).foldl (· + ·) 0

variable {key : String}

theorem Records.add {bucket : ChargeBucket} {rows : List Row} (h : bucket.Records key rows)
    (row : Row) : (bucket.add row (row.amount key)).Records key (rows ++ [row]) := by
  cases hzero : row.amount key == 0 with
  | true =>
      have hfree : row.isCharged key = false := by simp [Row.isCharged, bne, hzero]
      rw [ChargeBucket.add, if_pos hzero]
      exact ⟨by simp [h.sources, hfree], h.total⟩
  | false =>
      have hcharged : row.isCharged key = true := by simp [Row.isCharged, bne, hzero]
      rw [ChargeBucket.add, if_neg (by simp [hzero])]
      exact ⟨by simp [h.sources, hcharged, ChargeSource.ofRow], by simp [h.total]⟩

end ChargeBucket

end Drapery
