import Mathlib.Data.Finset.Card
import Mathlib.Order.Bounds.Defs
import PartitionBench.Proofs.Job.Names

/-!
Contract: how the register of job names comes to a name.

Owns:
- the search for a name as it goes from one tried name to the next, with nothing that bounds it;
- that it ends all the same, after one more name than are taken at most, and gives the least free
  form of the base name;
- what becomes of base names that all differ and of copies of one base name.

Does not own: that names which were given stay new (`Proofs.Job.Names`).
-/

namespace PartitionBench.Job

/-! ## The search, name by name -/

/-- The search for a name goes from a tried name and the number that comes next to the name that is
found. A tried name that is free ends it. One that is taken gives way to the base name with the
number, and the number behind it comes next. `probes` counts the tried names. -/
inductive Search (taken : List String) (base : String) : String → Nat → Nat → String → Prop
  | ends {tried : String} {number : Nat} (isFree : tried ∉ taken) :
      Search taken base tried number 1 tried
  | goesOn {tried found : String} {number probes : Nat} (isTaken : tried ∈ taken)
      (later : Search taken base (numbered base number) (number + 1) probes found) :
      Search taken base tried number (probes + 1) found

section Search

variable {taken : List String} {base : String}

theorem Search.isFree {tried found : String} {number probes : Nat}
    (search : Search taken base tried number probes found) : found ∉ taken := by
  induction search with
  | ends isFree => exact isFree
  | goesOn _ _ inductionHypothesis => exact inductionHypothesis

/-- Where a search starts decides how long it is and what it finds. -/
theorem Search.unique {tried found other : String} {number probes otherProbes : Nat}
    (search : Search taken base tried number probes found)
    (again : Search taken base tried number otherProbes other) :
    otherProbes = probes ∧ other = found := by
  induction search generalizing otherProbes other with
  | ends isFree =>
      cases again with
      | ends => exact ⟨rfl, rfl⟩
      | goesOn isTaken => exact absurd isTaken isFree
  | goesOn isTaken _ inductionHypothesis =>
      cases again with
      | ends isFree => exact absurd isTaken isFree
      | goesOn _ later =>
          obtain ⟨sameProbes, sameName⟩ := inductionHypothesis later
          exact ⟨congrArg (· + 1) sameProbes, sameName⟩

/-- Through a run of numbered names that are taken the search goes to the free one behind it. -/
theorem search_through {number count : Nat}
    (runTaken : ∀ offset < count, numbered base (number + offset) ∈ taken)
    (isFree : numbered base (number + count) ∉ taken) :
    Search taken base (numbered base number) (number + 1) (count + 1)
      (numbered base (number + count)) := by
  induction count generalizing number with
  | zero => exact .ends isFree
  | succ count inductionHypothesis =>
      have shifted (offset : Nat) : number + (offset + 1) = number + 1 + offset := by omega
      have firstTaken : numbered base number ∈ taken := runTaken 0 (Nat.succ_pos count)
      refine .goesOn firstTaken ?_
      rw [shifted count] at isFree ⊢
      refine inductionHypothesis (fun offset below => ?_) isFree
      rw [← shifted]
      exact runTaken (offset + 1) (Nat.succ_lt_succ below)

end Search

/-! ## The least free name -/

/-- The number that a taken base name is given is the least free one, and no more than one above
the number of different names taken: as many names with lower numbers, and the base name itself, are
all among these. -/
theorem freeName_isLeast {taken : List String} {base : String} (isTaken : base ∈ taken) :
    ∃ number, IsLeast {number | 2 ≤ number ∧ numbered base number ∉ taken} number ∧
      freeName taken base = numbered base number ∧ number ≤ taken.toFinset.card + 1 := by
  obtain ⟨number, isName, atLeast, _, isFree, before⟩ := freeName_of_taken isTaken
  have isLeast : IsLeast {number | 2 ≤ number ∧ numbered base number ∉ taken} number := by
    refine ⟨⟨atLeast, isFree⟩, fun other ⟨notBelow, otherFree⟩ => ?_⟩
    by_contra below
    exact otherFree (before other notBelow (Nat.lt_of_not_le below))
  have runTaken : ∀ earlier, 2 ≤ earlier → earlier < 2 + (number - 2) →
      numbered base earlier ∈ taken.dedup := by
    intro earlier notBelow below
    exact List.mem_dedup.mpr (before earlier notBelow (by omega))
  have short := run_shorter_than_taken (List.mem_dedup.mpr isTaken) runTaken
  rw [← List.card_toFinset] at short
  exact ⟨number, isLeast, isName, by omega⟩

/-- The search from the base name itself ends with the name that the register gives. -/
theorem search_finds (taken : List String) (base : String) :
    ∃ probes, probes ≤ taken.toFinset.card + 1 ∧
      Search taken base base 2 probes (freeName taken base) := by
  by_cases isTaken : base ∈ taken
  · obtain ⟨number, ⟨⟨atLeast, isFree⟩, least⟩, isName, atMost⟩ := freeName_isLeast isTaken
    obtain ⟨count, rfl⟩ := Nat.exists_eq_add_of_le atLeast
    have runTaken : ∀ offset < count, numbered base (2 + offset) ∈ taken := by
      intro offset below
      by_contra offsetFree
      have notAbove : 2 + count ≤ 2 + offset := least ⟨by omega, offsetFree⟩
      omega
    rw [isName]
    exact ⟨count + 1 + 1, by omega, .goesOn isTaken (search_through runTaken isFree)⟩
  · rw [freeName_of_free isTaken]
    exact ⟨1, by omega, .ends isTaken⟩

/-- What comes of one claim: the search for the name ends in time, and nothing else can come of it;
the name is the base name or its least free numbered form; and it is the one name that is taken
afterwards and was not before. -/
structure Claimed (taken : List String) (base name : String) (after : List String) : Prop where
  ends : ∃ probes, probes ≤ taken.toFinset.card + 1 ∧ Search taken base base 2 probes name
  only : ∀ probes other, Search taken base base 2 probes other → other = name
  least : if base ∈ taken then
      ∃ number, IsLeast {number | 2 ≤ number ∧ numbered base number ∉ taken} number ∧
        name = numbered base number
    else name = base
  isNew : name ∉ taken
  added : after.toFinset = insert name taken.toFinset

theorem claimed (taken : List String) (base : String) :
    Claimed taken base (freeName taken base) (freeName taken base :: taken) := by
  obtain ⟨probes, inTime, search⟩ := search_finds taken base
  constructor
  case ends => exact ⟨probes, inTime, search⟩
  case only => exact fun _ _ again => (search.unique again).2
  case least =>
    split
    next isTaken =>
      obtain ⟨number, isLeast, isName, _⟩ := freeName_isLeast isTaken
      exact ⟨number, isLeast, isName⟩
    next isFree => exact freeName_of_free isFree
  case isNew => exact search.isFree
  case added => exact List.toFinset_cons

/-! ## Lists of claims -/

/-- Base names that all differ, and none of which is taken, are given as they are. -/
theorem claimAll_of_nodup {taken bases : List String} (distinct : bases.Nodup)
    (areFree : ∀ base ∈ bases, base ∉ taken) : (claimAll taken bases).1 = bases := by
  induction bases generalizing taken with
  | nil => rfl
  | cons base rest inductionHypothesis =>
      obtain ⟨notAgain, restDistinct⟩ := List.nodup_cons.mp distinct
      obtain ⟨isFree, restFree⟩ := List.forall_mem_cons.mp areFree
      have stillFree : ∀ other ∈ rest, other ∉ base :: taken := by
        intro other member isTaken
        rcases List.mem_cons.mp isTaken with rfl | before
        · exact notAgain member
        · exact restFree other member before
      rw [claimAll, freeName_of_free isFree, inductionHypothesis restDistinct stillFree]

/-- Of the forms of a base name, the base name itself is taken and so are just the numbers from two on
that come before `next`. -/
structure TakenUpTo (taken : List String) (base : String) (next : Nat) : Prop where
  someNumber : 2 ≤ next
  baseTaken : base ∈ taken
  numbers : ∀ number, 2 ≤ number → (numbered base number ∈ taken ↔ number < next)

theorem TakenUpTo.freeName {taken : List String} {base : String} {next : Nat}
    (upTo : TakenUpTo taken base next) : freeName taken base = numbered base next := by
  obtain ⟨number, ⟨⟨atLeast, isFree⟩, least⟩, isName, _⟩ := freeName_isLeast upTo.baseTaken
  have nextFree : numbered base next ∉ taken :=
    fun isTaken => Nat.lt_irrefl next ((upTo.numbers next upTo.someNumber).mp isTaken)
  have notAbove : number ≤ next := least ⟨upTo.someNumber, nextFree⟩
  have notBelow : ¬ number < next := fun below => isFree ((upTo.numbers number atLeast).mpr below)
  rw [isName, Nat.le_antisymm notAbove (Nat.le_of_not_lt notBelow)]

/-- One more copy takes the next number. -/
theorem TakenUpTo.claimed {taken : List String} {base : String} {next : Nat}
    (upTo : TakenUpTo taken base next) : TakenUpTo (numbered base next :: taken) base (next + 1) where
  someNumber := Nat.le_succ_of_le upTo.someNumber
  baseTaken := List.mem_cons_of_mem _ upTo.baseTaken
  numbers := by
    intro number atLeast
    rw [List.mem_cons, upTo.numbers number atLeast, Nat.lt_succ_iff, Nat.le_iff_lt_or_eq, or_comm]
    exact or_congr_right ⟨numbered_injective base, congrArg (numbered base)⟩

theorem claimAll_copies {taken : List String} {base : String} {next : Nat}
    (upTo : TakenUpTo taken base next) (copies : Nat) :
    (claimAll taken (List.replicate copies base)).1 =
      (List.range' next copies).map (numbered base) := by
  induction copies generalizing taken next with
  | zero => rfl
  | succ copies inductionHypothesis =>
      rw [List.replicate_succ, claimAll, upTo.freeName, inductionHypothesis upTo.claimed,
        List.range'_succ, List.map_cons]

/-- In a fresh register the first copy of a base name takes no number. -/
theorem takenUpTo_first (base : String) : TakenUpTo [base] base 2 where
  someNumber := Nat.le_refl 2
  baseTaken := List.mem_singleton_self base
  numbers := by
    intro number atLeast
    rw [List.mem_singleton]
    exact iff_of_false (numbered_ne_base base number) (Nat.not_lt.mpr atLeast)

/-- **The least free name.** Whatever names are taken, the search for a name ends after one more
probe than there are names at most, and what is claimed is the least free form of the base name, the
only name that is added. So a fresh register gives base names as they are exactly when they all
differ, and it numbers copies of one base name from two on. -/
theorem least_free_name_claimed :
    (∀ taken base, ∃ name after, claimAll taken [base] = ([name], after) ∧
      Claimed taken base name after) ∧
    (∀ bases, (claimAll [] bases).1 = bases ↔ bases.Nodup) ∧
    ∀ base copies, (claimAll [] (List.replicate (copies + 1) base)).1 =
      base :: (List.range' 2 copies).map (numbered base) := by
  refine ⟨?_, ?_, ?_⟩
  · exact fun taken base => ⟨_, _, rfl, claimed taken base⟩
  · intro bases
    constructor
    · intro unchanged
      rw [← unchanged]
      exact claimAll_nodup [] bases
    · exact fun distinct => claimAll_of_nodup distinct fun _ _ => List.not_mem_nil
  · intro base copies
    rw [List.replicate_succ, claimAll, freeName_of_free List.not_mem_nil,
      claimAll_copies (takenUpTo_first base)]

/-- Other base names may stand in the way of a number. -/
example : (claimAll [] ["a", "a_2", "a", "a", "b", "a_2"]).1 =
    ["a", "a_2", "a_3", "a_4", "b", "a_2_2"] := by
  decide +kernel

end PartitionBench.Job
