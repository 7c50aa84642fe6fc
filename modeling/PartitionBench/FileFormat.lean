import PartitionBench.Text.Split

/-!
Contract: the file formats that the partitioners read.

Owns: the table of formats by code, with the file extension that goes with a
format where there is a usual one, and the extension of a file name.

Does not own: the advice given when the two do not agree (`Warning`).
-/

namespace PartitionBench

structure FileFormat where
  name : String
  extension : Option String
  deriving DecidableEq, Repr

namespace FileFormat

/-- The formats in the order of their codes, which start at zero. -/
def all : List FileFormat :=
  [⟨"AUTO", none⟩, ⟨"METIS", some "graph"⟩, ⟨"ADCIRC", none⟩, ⟨"OCEAN", none⟩,
    ⟨"MATRIXMARKET", none⟩, ⟨"TEEC", none⟩, ⟨"BINARY", some "bgf"⟩, ⟨"EDGELIST", none⟩,
    ⟨"BINARYEDGELIST", none⟩, ⟨"EDGELISTDIST", none⟩]

/-- The format with a code, if the code is known. -/
def ofCode? (code : Int) : Option FileFormat :=
  if code < 0 then none else all[code.toNat]?

def name? (code : Int) : Option String :=
  (ofCode? code).map name

def extension? (code : Int) : Option String :=
  (ofCode? code).bind extension

end FileFormat

/-- The extension of a file name: the text behind the last dot, or the whole name
when it has no dot. -/
def fileExtension (fileName : String) : String :=
  String.ofList (Text.afterLast '.' fileName.toList)

end PartitionBench
