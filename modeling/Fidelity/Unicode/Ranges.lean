/-! Sets of characters as ascending, disjoint, inclusive ranges of code points. -/
namespace Fidelity.Unicode

abbrev Ranges := List (Nat × Nat)

def Ranges.contains : Ranges → Nat → Bool
  | [], _ => false
  | (lo, hi) :: rest, n => if n ≤ hi then decide (lo ≤ n) else Ranges.contains rest n

theorem Ranges.exists_of_contains {rs : Ranges} {n : Nat} (h : rs.contains n = true) :
    ∃ r ∈ rs, r.1 ≤ n ∧ n ≤ r.2 := by
  induction rs with
  | nil => simp [Ranges.contains] at h
  | cons r rest ih =>
    obtain ⟨lo, hi⟩ := r
    by_cases hn : n ≤ hi
    · exact ⟨(lo, hi), by simp, by simpa [Ranges.contains, hn] using h, hn⟩
    · obtain ⟨r, hr, hb⟩ := ih (by simpa [Ranges.contains, hn] using h)
      exact ⟨r, List.mem_cons_of_mem _ hr, hb⟩

end Fidelity.Unicode
