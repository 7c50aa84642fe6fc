import PartitionBench.Host.Utility.Files

/-!
Contract: the program that compares files byte by byte.

Owns: the differences of two texts, and the reports on them.

Does not own: comparing lines (`Utility.Sorting`).
-/

namespace PartitionBench.Host.Utility

open Execution

def octalByte (c : Char) : List Char :=
  let digits := Nat.toDigits 8 c.toNat
  List.replicate (3 - digits.length) ' ' ++ digits

/-- The differences of two texts of one length, with the places of the bytes. -/
def byteDifferences (left right : List Char) : List (Nat × Char × Char) :=
  ((left.zip right).zipIdx.filter fun entry => entry.1.1 ≠ entry.1.2).map fun entry =>
    (entry.2 + 1, entry.1.1, entry.1.2)

/-- The report that one of two texts ends before the other does. -/
def endReport (file common : List Char) (namesLine : Bool) : List Char :=
  let lines := common.count '\n'
  let place : List Char :=
    if common = [] then " which is empty".toList
    else
      " after byte ".toList ++ digitsOfNat common.length
        ++ (if ¬ namesLine then []
          else if common.getLast? = some '\n' then ", line ".toList ++ digitsOfNat lines
          else ", in line ".toList ++ digitsOfNat (lines + 1))
  "EOF on ".toList ++ file ++ place

/-- Compare two files byte by byte. A second file that is not named is the input. -/
def compareBytes : Utility := fun name arguments =>
  withArguments
    { flags := "slb", valued := "ni"
      long := [("silent", 's'), ("quiet", 's'), ("verbose", 'l'), ("bytes", 'n')] }
    name arguments 2 fun options operands => do
      match operands with
      | [] => do
          complain name ("missing operand after ".toList ++ shown name)
          complain name ("Try ".toList ++ shown (name ++ " --help".toList)
            ++ " for more information.".toList)
          return 2
      | first :: others => do
          let second := others.headD ['-']
          let (read, isGood) ←
            if has options 's' then do
              let left ← inputOf first
              let right ← inputOf second
              match left, right with
              | .ok bytes, .ok others => pure ([(first, bytes), (second, others)], true)
              | _, _ => pure ([], false)
            else readOperands name usualReport [first, second]
          match isGood, read with
          | true, [left, right] => do
              let limit := ((valueOf? options 'n').bind natural?).getD
                (max left.2.length right.2.length)
              let one := left.2.take limit
              let two := right.2.take limit
              let size := min one.length two.length
              let differences := byteDifferences (one.take size) (two.take size)
              let shorter := if one.length < two.length then first else second
              let isShorter : Bool := one.length ≠ two.length
              if one = two then return 0
              else if has options 's' then return 1
              else if has options 'l' then do
                let width := (digitsOfNat size).length
                let line (entry : Nat × Char × Char) : List Char :=
                  let place := digitsOfNat entry.1
                  List.replicate (width - place.length) ' ' ++ place ++ ' ' :: octalByte entry.2.1
                    ++ ' ' :: octalByte entry.2.2
                let _ ← say (ofLines (differences.map line))
                if isShorter then complain name (endReport shorter (one.take size) false)
                return 1
              else
                match differences with
                | (place, _, _) :: _ =>
                    print (first ++ ' ' :: second ++ " differ: char ".toList ++ digitsOfNat place
                      ++ ", line ".toList
                      ++ digitsOfNat ((one.take (place - 1)).count '\n' + 1) ++ ['\n']) 1
                | [] => do
                    complain name (endReport shorter (one.take size) true)
                    return 1
          | _, _ => return 2

end PartitionBench.Host.Utility
