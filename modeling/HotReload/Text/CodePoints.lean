/-
# Sets of characters by their boundaries

A set of characters that falls into ranges is written as the ascending list of
the numbers where membership changes: the first number is the first member, the
second the first one that is no member again.

Key definitions: `CodePoints`, `CodePoints.contains`.
Key theorems: `CodePoints.contains_cons_cons`.
-/

namespace HotReload

/-- A set of code points: where membership changes, in ascending order. -/
structure CodePoints where
  boundaries : List Nat

/-- Whether the code point belongs to the set: an odd number of changes lies at
or before it. -/
def CodePoints.contains (s : CodePoints) (c : Nat) : Bool :=
  (s.boundaries.takeWhile (· ≤ c)).length % 2 == 1

namespace CodePoints

theorem contains_nil (c : Nat) : contains ⟨[]⟩ c = false := rfl

/-- The first two boundaries hold one range, and the others the rest of the set. -/
theorem contains_cons_cons {a b : Nat} {rest : List Nat}
    (h : (a :: b :: rest).Pairwise (· ≤ ·)) (c : Nat) :
    contains ⟨a :: b :: rest⟩ c = (decide (a ≤ c ∧ c < b) || contains ⟨rest⟩ c) := by
  rw [List.pairwise_cons, List.pairwise_cons] at h
  obtain ⟨ha, hb, -⟩ := h
  have hab : a ≤ b := ha b List.mem_cons_self
  unfold contains
  by_cases hac : a ≤ c
  · rw [List.takeWhile_cons_of_pos (by simpa using hac)]
    by_cases hbc : b ≤ c
    · have hout : ¬ (a ≤ c ∧ c < b) := by omega
      rw [List.takeWhile_cons_of_pos (by simpa using hbc), decide_eq_false hout, Bool.false_or,
        List.length_cons, List.length_cons, Nat.add_assoc, Nat.add_mod_right]
    · have hin : a ≤ c ∧ c < b := by omega
      rw [List.takeWhile_cons_of_neg (by simpa using hbc), decide_eq_true hin]
      rfl
  · -- then no boundary behind lies before `c` either
    have hrest : rest.takeWhile (· ≤ c) = [] := by
      cases rest with
      | nil => rfl
      | cons d rest =>
        have hbd := hb d List.mem_cons_self
        have hdc : ¬ d ≤ c := by omega
        exact List.takeWhile_cons_of_neg (by simpa using hdc)
    have hout : ¬ (a ≤ c ∧ c < b) := by omega
    rw [List.takeWhile_cons_of_neg (by simpa using hac), decide_eq_false hout, hrest]
    rfl

end CodePoints

end HotReload
