import GDriver.Sync.ChunkPlan

namespace GDriver
namespace Sync
namespace Chunks

open Library

/-!
# The ranges of the chunks

The count divides and rounds up, the range multiplies and takes a minimum.  For files of every
length and chunks of every size the two meet: the ranges of the counted chunks follow each other
through the file, and the place after the last one has none.
-/

/-- The counted ranges are the file, cut after every so many bytes; no operation overflows. -/
structure PartitionsFile (fileLen size count : UInt64) : Prop where
  counted : chunkCount fileLen size = some count
  computed : ∀ n ≤ count, (chunkRange n fileLen size).isSome = true
  inside : ∀ n ≤ count, (∃ range, chunkRange n fileLen size = some (some range)) ↔ n < count
  begins : ∃ last, chunkRange 0 fileLen size = some (some (0, last))
  follows : ∀ n next first last nextFirst nextLast, next.toNat = n.toNat + 1 →
    chunkRange n fileLen size = some (some (first, last)) →
      chunkRange next fileLen size = some (some (nextFirst, nextLast)) → nextFirst.toNat = last.toNat + 1
  full : ∀ n first last, n.toNat + 1 < count.toNat → chunkRange n fileLen size = some (some (first, last)) →
    last.toNat + 1 = first.toNat + size.toNat
  rest : ∀ n first last, n.toNat + 1 = count.toNat → chunkRange n fileLen size = some (some (first, last)) →
    last.toNat + 1 = fileLen.toNat ∧ first.toNat ≤ last.toNat ∧ last.toNat + 1 ≤ first.toNat + size.toNat

section Ranges

variable {n fileLen size : UInt64} (positive : 1 ≤ size.toNat)
  (fits : fileLen.toNat + size.toNat < 18446744073709551616)
include positive fits

/-- The range of a chunk. -/
theorem ends_of_chunkRange {first last : UInt64} (ranged : chunkRange n fileLen size = some (some (first, last))) :
    n.toNat * size.toNat < fileLen.toNat ∧ first.toNat = n.toNat * size.toNat ∧
      last.toNat + 1 = min (n.toNat * size.toNat + size.toNat) fileLen.toNat := by
  have below := below_of_chunkRange ranged
  rcases chunkRange_of_below below positive fits with ⟨start, stop, same, startValue, stopValue⟩
  rw [same] at ranged
  cases ranged
  exact ⟨below, startValue, stopValue⟩

end Ranges

section Counted

variable {n fileLen size count : UInt64} (below : ∀ place, place < count.toNat ↔ place * size.toNat < fileLen.toNat)
  (fits : fileLen.toNat + size.toNat < 18446744073709551616)
include below fits

/-- The place after the last chunk still has a product that fits. -/
theorem product_fits (le : n ≤ count) : n.toNat * size.toNat < 18446744073709551616 := by
  rw [UInt64.le_iff_toNat_le] at le
  cases place : n.toNat with
  | zero =>
      rw [Nat.zero_mul]
      decide
  | succ previous =>
      have within := (below previous).mp (by omega)
      rw [Nat.succ_mul]
      omega

/-- The place after the last chunk has no range. -/
theorem chunkRange_of_uncounted (nonzero : fileLen ≠ 0) (le : n ≤ count) (outside : ¬ n < count) :
    chunkRange n fileLen size = some none := by
  refine chunkRange_of_beyond nonzero ?_ (product_fits below fits le)
  rw [UInt64.lt_iff_toNat_lt, below] at outside
  exact Nat.not_lt.mp outside

/-- Every counted chunk has a range. -/
theorem chunkRange_of_counted (positive : 1 ≤ size.toNat) (inside : n < count) :
    ∃ range, chunkRange n fileLen size = some (some range) := by
  rw [UInt64.lt_iff_toNat_lt, below] at inside
  rcases chunkRange_of_below inside positive fits with ⟨first, last, ranged, _⟩
  exact ⟨(first, last), ranged⟩

end Counted

/-- The ranges partition every file that is not empty, as long as its length and the size of a chunk
together fit. -/
theorem chunkRange_partitions (fileLen size : UInt64) (some_ : 1 ≤ fileLen) (positive : 1 ≤ size)
    (fits : fileLen.toNat + size.toNat < 18446744073709551616) : ∃ count, PartitionsFile fileLen size count := by
  rw [UInt64.le_iff_toNat_le, UInt64.toNat_one] at some_ positive
  have nonzero : fileLen ≠ 0 := by
    intro zero
    rw [zero, UInt64.toNat_zero] at some_
    exact absurd some_ (by decide)
  rcases @checkedDivCeil_of_pos fileLen size positive with ⟨count, divides, below⟩
  refine ⟨count, ?_, ?_, ?_, ?_, ?_, ?_, ?_⟩
  · rw [chunkCount, if_neg nonzero]
    exact divides
  · intro n le
    by_cases inside : n < count
    · rcases chunkRange_of_counted below fits positive inside with ⟨range, ranged⟩
      exact Option.isSome_of_mem ranged
    · exact Option.isSome_of_mem (chunkRange_of_uncounted below fits nonzero le inside)
  · intro n le
    constructor
    · rintro ⟨range, ranged⟩
      by_contra outside
      rw [chunkRange_of_uncounted below fits nonzero le outside] at ranged
      cases ranged
    · exact chunkRange_of_counted below fits positive
  · have first : (0 : UInt64).toNat * size.toNat < fileLen.toNat := by
      rw [UInt64.toNat_zero, Nat.zero_mul]
      exact some_
    rcases chunkRange_of_below first positive fits with ⟨start, last, ranged, startValue, _⟩
    rw [UInt64.toNat_zero, Nat.zero_mul, ← UInt64.toNat_zero, UInt64.toNat_inj] at startValue
    rw [startValue] at ranged
    exact ⟨last, ranged⟩
  · intro n next first last nextFirst nextLast after ranged nextRanged
    have here := ends_of_chunkRange positive fits ranged
    have there := ends_of_chunkRange positive fits nextRanged
    rw [after, Nat.succ_mul] at there
    omega
  · intro n first last inside ranged
    have here := ends_of_chunkRange positive fits ranged
    have more := (below (n.toNat + 1)).mp inside
    rw [Nat.succ_mul] at more
    omega
  · intro n first last final ranged
    have here := ends_of_chunkRange positive fits ranged
    have none_ : ¬ (n.toNat + 1) * size.toNat < fileLen.toNat := by
      rw [← below, final]
      exact Nat.lt_irrefl _
    rw [Nat.succ_mul] at none_
    omega

/-- A file that is one byte longer than four chunks. -/
theorem chunkRange_partitions_of_long : ∃ count, PartitionsFile 20971521 5242880 count :=
  chunkRange_partitions 20971521 5242880 (by decide) (by decide) (by decide)

end Chunks
end Sync
end GDriver
