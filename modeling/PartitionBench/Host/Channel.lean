/-!
Contract: bytes on their way from those that write them to those that read them.

Owns:
- what is left to be read, and writing behind it and reading from its front;
- a bound on all that is ever written.

Does not own: what becomes of a process that writes beyond the bound (`Host.Session`).
-/

namespace PartitionBench.Host

/-- Bytes that were written and wait to be read. Those that are ready come first; later writes
follow, the last of them in front. -/
structure Channel where
  ready : List Char := []
  written : List (List Char) := []
  taken : Nat := 0
  /-- The most that may be written, if there is a bound. -/
  capacity : Option Nat := none
  deriving Repr

namespace Channel

def waiting (channel : Channel) : List Char :=
  if channel.written.isEmpty then channel.ready
  else channel.ready ++ channel.written.reverse.flatten

/-- The channel when bytes have been written to it. -/
def write (channel : Channel) (bytes : List Char) : Channel :=
  { channel with
    written := bytes :: channel.written
    taken := channel.taken + bytes.length }

/-- The channel when bytes have been read from it. -/
def skip (channel : Channel) (count : Nat) : Channel :=
  { channel with ready := channel.waiting.drop count, written := [] }

def isOverfull (channel : Channel) : Bool :=
  match channel.capacity with
  | some most => most < channel.taken
  | none => false

/-- What is left is what is ready and then every write in its order. -/
theorem waiting_eq (channel : Channel) :
    channel.waiting = channel.ready ++ channel.written.reverse.flatten := by
  unfold waiting
  cases channel.written with
  | nil => simp
  | cons last earlier => simp

/-- A write stands behind all that was left. -/
@[simp] theorem waiting_write (channel : Channel) (bytes : List Char) :
    (channel.write bytes).waiting = channel.waiting ++ bytes := by
  simp [waiting_eq, write]

/-- A read takes from the front of what was left. -/
@[simp] theorem waiting_skip (channel : Channel) (count : Nat) :
    (channel.skip count).waiting = channel.waiting.drop count := by
  simp [waiting_eq, skip]

/-- Every byte of a write counts. -/
@[simp] theorem taken_write (channel : Channel) (bytes : List Char) :
    (channel.write bytes).taken = channel.taken + bytes.length := rfl

/-- What has been read still counts. -/
@[simp] theorem taken_skip (channel : Channel) (count : Nat) :
    (channel.skip count).taken = channel.taken := rfl

end Channel

end PartitionBench.Host
