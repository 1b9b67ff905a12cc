import Custodian.Bytes
import Custodian.Files.Tree

/-!
# Chunks

A file is read in chunks of one size, the last one shorter if need be. `chunks` cuts bytes all at once; `Reader.next`
reads them one by one from a file of which every single read may give less than asked for. `Source` : where the files
to be sent come from, and what reading them yields.
-/

namespace Custodian

set_option autoImplicit false

/-- The size that chunks have when `size` is asked for: at least one byte. -/
def chunkSize (size : Nat) : Nat := max size 1

/-- The bytes from `at` on, in chunks. -/
def chunksFrom (size : Nat) (b : ByteArray) (start : Nat) : List ByteArray :=
  if _h : start < b.size then
    b.extract start (start + chunkSize size) :: chunksFrom size b (start + chunkSize size)
  else []
termination_by b.size - start
decreasing_by simp [chunkSize]; omega

/-- Bytes in chunks. -/
def chunks (size : Nat) (b : ByteArray) : List ByteArray := chunksFrom size b 0

/-! ## Reading piece by piece -/

/-- No chunk can be as large as this. -/
def chunkSizeLimit : Nat := 9223372036854775808

/-- A file being read: what is left of it, and at most how many bytes each of the coming reads gives, at least one. -/
structure Reader where
  left : List UInt8
  limits : Nat → Nat

namespace Reader

/-- A file about to be read. -/
def ofFile (b : ByteArray) (limits : Nat → Nat) : Reader := ⟨b.data.toList, limits⟩

/-- One read of up to `n` bytes. -/
def read (n : Nat) (r : Reader) : List UInt8 × Reader :=
  let k := min n (max (r.limits 0) 1)
  (r.left.take k, ⟨r.left.drop k, fun i => r.limits (i + 1)⟩)

/-- Reads until `n` bytes are there or a read gives none. -/
def fill (n : Nat) (r : Reader) : List UInt8 × Reader :=
  if n = 0 then ([], r)
  else
    let got := r.read n
    if got.1.isEmpty then ([], got.2)
    else
      let more := fill (n - got.1.length) got.2
      (got.1 ++ more.1, more.2)
termination_by n
decreasing_by
  rename_i hn hgot
  exact Nat.sub_lt (Nat.pos_of_ne_zero hn) (List.length_pos_iff.2 (mt List.isEmpty_iff.2 hgot))

/-- What comes of asking for the next chunk. -/
inductive Answer where
  | chunk (bytes : ByteArray)
  /-- The file is at its end. -/
  | exhausted
  /-- The reader breaks down, since it cannot hold a chunk of the size asked for. -/
  | breakdown
deriving DecidableEq, Inhabited

/-- Asks for the next chunk. -/
def next (size : Nat) (r : Reader) : Answer × Reader :=
  if chunkSizeLimit ≤ size then (.breakdown, r)
  else
    let got := r.fill (chunkSize size)
    if got.1.isEmpty then (.exhausted, got.2) else (.chunk ⟨got.1.toArray⟩, got.2)

/-- The reader once `k` chunks have been asked for. -/
def after (size : Nat) : Nat → Reader → Reader
  | 0, r => r
  | k + 1, r => after size k (r.next size).2

/-- What comes of asking for a chunk when `k` have been asked for before. -/
def answer (size k : Nat) (r : Reader) : Answer := ((r.after size k).next size).1

end Reader

/-! ## Sources -/

/-- How the reading of a file ends. -/
inductive ReadingEnd where
  | complete
  | fault (f : Fault)
  /-- The reader breaks down, since it cannot hold a chunk of the size asked for. -/
  | breakdown
deriving Inhabited

/-- What reading a file yields: its chunks, and how they end. -/
structure Reading where
  chunks : List ByteArray := []
  ending : ReadingEnd := .complete
deriving Inhabited

/-- Where files come from: what opening a path leads to. -/
abbrev Source := String → Except Fault Reading

/-- What reading an entry of a tree yields; a directory opens but cannot be read. -/
def Entry.reading (size : Nat) (e : Entry) : Reading :=
  if chunkSizeLimit ≤ size then ⟨[], .breakdown⟩
  else
    match e with
    | .file b => ⟨chunks size b, .complete⟩
    | .dir => ⟨[], .fault .isADirectory⟩

/-- The files of a tree, in chunks of one size. -/
def Tree.source (t : Tree) (size : Nat) : Source := fun path => (t.openRead path).map (Entry.reading size)

end Custodian
