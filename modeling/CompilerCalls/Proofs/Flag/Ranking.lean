import CompilerCalls.Flag.Reading

/-!
# Rows with the longest spelling first

Sorting rows by the length of their spellings neither loses nor doubles a row,
and no row stands behind a shorter one.
-/

namespace CompilerCalls

/-- No row stands behind a row with a shorter spelling. -/
def Ranked (rows : List Rule) : Prop :=
  rows.Pairwise fun left right => right.key.length ≤ left.key.length

theorem insertByLength_perm (rule : Rule) (rows : List Rule) :
    (insertByLength rule rows).Perm (rule :: rows) := by
  induction rows with
  | nil => exact .refl _
  | cons head rest induction =>
      unfold insertByLength
      split
      · exact .refl _
      · exact (induction.cons head).trans (.swap rule head rest)

theorem longestFirst_perm (rows : List Rule) :
    (longestFirst rows).Perm rows := by
  induction rows with
  | nil => exact .nil
  | cons rule rest induction =>
      exact (insertByLength_perm rule (longestFirst rest)).trans
        (induction.cons rule)

theorem ranked_insertByLength (rule : Rule) {rows : List Rule}
    (ranked : Ranked rows) : Ranked (insertByLength rule rows) := by
  induction rows with
  | nil => exact List.pairwise_singleton _ rule
  | cons head rest induction =>
      obtain ⟨behindHead, restRanked⟩ := List.pairwise_cons.mp ranked
      unfold insertByLength
      split
      · rename_i notLonger
        refine List.pairwise_cons.mpr ⟨?_, ranked⟩
        intro other member
        rcases List.mem_cons.mp member with rfl | later
        · exact notLonger
        · exact Nat.le_trans (behindHead other later) notLonger
      · rename_i longer
        refine List.pairwise_cons.mpr ⟨?_, induction restRanked⟩
        intro other member
        have place := (insertByLength_perm rule rest).mem_iff.mp member
        rcases List.mem_cons.mp place with rfl | later
        · omega
        · exact behindHead other later

theorem ranked_longestFirst (rows : List Rule) :
    Ranked (longestFirst rows) := by
  induction rows with
  | nil => exact .nil
  | cons rule rest induction => exact ranked_insertByLength rule induction

end CompilerCalls
