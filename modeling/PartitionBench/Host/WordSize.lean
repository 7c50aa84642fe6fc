/-!
Contract: the whole numbers that the host counts with.

Owns: the bounds of the numbers of 64 bits.

Does not own: how numbers are written (`Text.Digits`).
-/

namespace PartitionBench.Host

/-- How many numbers of 64 bits there are. -/
def wordCount : Nat := 18446744073709551616

/-- The greatest number of 64 bits with a sign. -/
def greatestWord : Int := 9223372036854775807

/-- The least number of 64 bits with a sign. -/
def leastWord : Int := -9223372036854775808

end PartitionBench.Host
