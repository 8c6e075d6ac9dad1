import Mathlib
import PluralForms.Program.Run

/-!
# The rows of a table

`plural table` checks its range before it does anything else. A range is refused when it is
reversed or holds more than `maxRows` numbers, both measured over the integers, so that no
difference of two words can overflow (`rangeProblem_eq_none_iff`). A refused range ends the run
with its report before the rule is loaded; an accepted one loads the rule and evaluates it at
each number of the range once, in increasing order (`table_rows`).

The numbers of a range are counted from its first one over the integers and only then made into
words, so a range that ends at the largest word, or starts at the least, stops there and does
not wrap around.
-/

namespace PluralForms

namespace Program

variable {lo hi m : Int64}

theorem rangeProblem_eq_none_iff :
    rangeProblem lo hi = none ↔ lo.toInt ≤ hi.toInt ∧ hi.toInt - lo.toInt + 1 ≤ maxRows := by
  unfold rangeProblem
  split_ifs with hrev hlong
  · simp only [false_iff, not_and]
    omega
  · simp only [false_iff, not_and, not_le]
    omega
  · simp only [true_iff]
    omega

theorem length_rangeOf : (rangeOf lo hi).length = (hi.toInt - lo.toInt + 1).toNat := by
  simp [rangeOf]

/-- The `k`-th number of a range, counted from 0, is `lo + k` over the integers: it lies between
the ends of the range, so making it a word changes nothing. -/
theorem toInt_rangeOf (lo hi : Int64) {k : Nat} (hk : k < (hi.toInt - lo.toInt + 1).toNat) :
    (Int64.ofInt (lo.toInt + k)).toInt = lo.toInt + k := by
  have := lo.le_toInt
  have := hi.toInt_lt
  exact Int64.toInt_ofInt_of_le (by omega) (by omega)

theorem mem_rangeOf : m ∈ rangeOf lo hi ↔ lo ≤ m ∧ m ≤ hi := by
  simp only [rangeOf, List.mem_map, List.mem_range, Int64.le_iff_toInt_le]
  constructor
  · rintro ⟨k, hk, rfl⟩
    rw [toInt_rangeOf lo hi hk]
    omega
  · rintro ⟨hlo, hhi⟩
    refine ⟨(m.toInt - lo.toInt).toNat, by omega, Int64.toInt_inj.1 ?_⟩
    rw [toInt_rangeOf lo hi (by omega)]
    omega

theorem rangeOf_increasing : (rangeOf lo hi).Pairwise (· < ·) := by
  rw [rangeOf, List.pairwise_map, List.range_eq_range']
  refine List.Pairwise.imp_of_mem ?_ List.pairwise_lt_range'
  intro j k hj hk hjk
  rw [List.mem_range'_1] at hj hk
  rw [Int64.lt_iff_toInt_lt, toInt_rangeOf lo hi (by omega), toInt_rangeOf lo hi (by omega)]
  omega

/-- The table command refuses a range exactly when it is reversed or longer than `maxRows`,
lengths taken over the integers. A refused range ends the run with its report, before the rule
is loaded or anything evaluated. An accepted range loads the rule and tabulates its values at the
numbers of `rangeOf lo hi`: every word from `lo` to `hi` once, in increasing order, at most
`maxRows` of them. -/
theorem table_rows (time : String) (color : ColorChoice) (verbosity : Nat) (s : RuleSettings)
    (lo hi : Int64) (json : Bool) :
    (rangeProblem lo hi = none ↔ lo.toInt ≤ hi.toInt ∧ hi.toInt - lo.toInt + 1 ≤ maxRows) ∧
    (∀ d, rangeProblem lo hi = some d →
      perform time ⟨color, verbosity, .table s lo hi json⟩ = .done (reported d)) ∧
    (rangeProblem lo hi = none →
      perform time ⟨color, verbosity, .table s lo hi json⟩ =
        withRule s (fun r => tableTranscript time (LogLevel.ofVerbosity verbosity)
          (color = .always) r lo hi json) ∧
      (∀ m, m ∈ rangeOf lo hi ↔ lo ≤ m ∧ m ≤ hi) ∧ (rangeOf lo hi).Pairwise (· < ·) ∧
      (rangeOf lo hi).length = (hi.toInt - lo.toInt + 1).toNat ∧
      (rangeOf lo hi).length ≤ maxRows) := by
  refine ⟨rangeProblem_eq_none_iff, fun d hd => ?_, fun hnone => ?_⟩
  · simp only [perform, hd]
  · have hlen := rangeProblem_eq_none_iff.1 hnone
    refine ⟨by simp only [perform, hnone], fun m => mem_rangeOf, rangeOf_increasing,
      length_rangeOf, ?_⟩
    rw [length_rangeOf]
    omega

end Program

end PluralForms
