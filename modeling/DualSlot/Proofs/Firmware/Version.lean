import DualSlot.Firmware.Version

/-!
# The order of versions

Being newer is an order by the first number that differs (`newerThan_iff`). The three numbers make up one
large number, the rank of a version, and the newer version is the one of larger rank
(`newerThan_iff_rank_lt`). Everything else about the order is arithmetic of ranks.
-/

namespace DualSlot.Version

/-- The three numbers of a version as the digits of one number. -/
def rank (v : Version) : Nat :=
  (v.major.toNat * UInt32.size + v.minor.toNat) * UInt32.size + v.patch.toNat

/-- The first number that differs decides. -/
theorem newerThan_iff (a b : Version) :
    a.newerThan b = true
      ↔ b.major < a.major
        ∨ a.major = b.major ∧ (b.minor < a.minor ∨ a.minor = b.minor ∧ b.patch < a.patch) := by
  unfold newerThan compare
  simp only [beq_iff_eq, Ordering.then_eq_gt, Std.compare_eq_gt, Std.compare_eq_iff_eq]

theorem newerThan_iff_rank_lt (a b : Version) : a.newerThan b = true ↔ b.rank < a.rank := by
  -- A digit stays below the base, so that a larger digit outweighs all that follow it.
  have hminor_a := a.minor.toNat_lt
  have hminor_b := b.minor.toNat_lt
  have hpatch_a := a.patch.toNat_lt
  have hpatch_b := b.patch.toNat_lt
  rw [newerThan_iff]
  simp only [UInt32.lt_iff_toNat_lt, ← UInt32.toNat_inj]
  unfold rank
  simp only [UInt32.size]
  omega

theorem not_newerThan_iff_rank_le (a b : Version) : a.newerThan b = false ↔ a.rank ≤ b.rank := by
  rw [← Bool.not_eq_true, newerThan_iff_rank_lt, Nat.not_lt]

theorem not_newerThan_self (v : Version) : v.newerThan v = false :=
  (not_newerThan_iff_rank_le v v).mpr (Nat.le_refl _)

theorem not_newerThan_trans {a b c : Version} (hab : a.newerThan b = false)
    (hbc : b.newerThan c = false) : a.newerThan c = false := by
  rw [not_newerThan_iff_rank_le] at *
  exact Nat.le_trans hab hbc

/-- What is newer than a version is newer than all that this one is not older than. -/
theorem newerThan_of_newerThan_of_not_newerThan {a b c : Version} (hab : a.newerThan b = true)
    (hcb : c.newerThan b = false) : a.newerThan c = true := by
  rw [newerThan_iff_rank_lt] at *
  rw [not_newerThan_iff_rank_le] at hcb
  exact Nat.lt_of_le_of_lt hcb hab

/-- A newer version is not older. -/
theorem not_newerThan_of_newerThan {a b : Version} (h : a.newerThan b = true) :
    b.newerThan a = false := by
  rw [newerThan_iff_rank_lt] at h
  exact (not_newerThan_iff_rank_le b a).mpr (Nat.le_of_lt h)

end DualSlot.Version
