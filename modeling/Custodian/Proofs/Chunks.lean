import Custodian.Files.Chunks
import Mathlib.Algebra.Order.Floor.Div
import Mathlib.Tactic

/-!
# Chunks partition a file

* `length_chunks`, `size_of_mem_dropLast_chunks`, `size_chunk_le`, `chunks_ne_empty`, `foldl_chunks` : how many chunks
  a file has, how long they are, and that together they are the file;
* `Reader.fill_eq`, `Reader.next_eq` : whatever single reads give, the next chunk is the next bytes of the file;
* `Reader.answer_eq` : so the answers of a reader are the chunks, and nothing for ever after them;
  `Reader.answers_partition` puts this together for chunks of a size that can be held.
-/

namespace Custodian

set_option autoImplicit false

theorem chunkSize_pos (size : Nat) : 0 < chunkSize size := by
  unfold chunkSize
  omega

/-! ## Chunks of bytes -/

theorem chunksFrom_of_lt {size start : Nat} {b : ByteArray} (h : start < b.size) :
    chunksFrom size b start =
      b.extract start (start + chunkSize size) :: chunksFrom size b (start + chunkSize size) := by
  rw [chunksFrom, dif_pos h]

theorem chunksFrom_of_le {size start : Nat} {b : ByteArray} (h : b.size ≤ start) : chunksFrom size b start = [] := by
  rw [chunksFrom, dif_neg (Nat.not_lt.2 h)]

theorem getElem?_chunksFrom_succ (size : Nat) (b : ByteArray) (start k : Nat) :
    (chunksFrom size b start)[k + 1]? = (chunksFrom size b (start + chunkSize size))[k]? := by
  by_cases h : b.size ≤ start
  · rw [chunksFrom_of_le h, chunksFrom_of_le (h.trans (Nat.le_add_right ..))]
    rfl
  · rw [chunksFrom_of_lt (Nat.lt_of_not_le h), List.getElem?_cons_succ]

theorem chunksFrom_ne_empty (size : Nat) (b : ByteArray) (start : Nat) : ∀ c ∈ chunksFrom size b start, c ≠ .empty := by
  fun_induction chunksFrom size b start with
  | case1 start h ih =>
    intro c hc
    obtain rfl | hc := List.mem_cons.1 hc
    · have hsize := chunkSize_pos size
      rw [Ne, ByteArray.extract_eq_empty_iff]
      omega
    · exact ih c hc
  | case2 => simp

theorem foldl_chunksFrom (size : Nat) (b : ByteArray) (start : Nat) :
    (chunksFrom size b start).foldl (· ++ ·) (b.extract 0 start) = b := by
  fun_induction chunksFrom size b start with
  | case1 start h ih =>
    rw [List.foldl_cons, ByteArray.extract_append_extract]
    rwa [Nat.min_eq_left (Nat.zero_le _), Nat.max_eq_right (Nat.le_add_right _ _)]
  | case2 start h =>
    have hb : b.extract 0 start = b.extract 0 (max start b.size) := by
      rw [Nat.max_eq_left (Nat.le_of_not_lt h)]
    rw [List.foldl_nil, hb, ByteArray.extract_zero_max_size]

theorem length_chunksFrom (size : Nat) (b : ByteArray) (start : Nat) :
    (chunksFrom size b start).length = (b.size - start) ⌈/⌉ chunkSize size := by
  have hsize := chunkSize_pos size
  fun_induction chunksFrom size b start with
  | case1 start h ih =>
    rw [List.length_cons, ih, Nat.ceilDiv_eq_add_pred_div, Nat.ceilDiv_eq_add_pred_div]
    by_cases hlast : b.size ≤ start + chunkSize size
    · rw [Nat.sub_eq_zero_of_le hlast, Nat.zero_add, Nat.div_eq_of_lt (by omega), Nat.zero_add]
      symm
      rw [Nat.div_eq_iff hsize]
      omega
    · have hmore : b.size - start + chunkSize size - 1 =
          b.size - (start + chunkSize size) + chunkSize size - 1 + chunkSize size := by omega
      rw [hmore, Nat.add_div_right _ hsize]
  | case2 start h =>
    rw [Nat.sub_eq_zero_of_le (Nat.le_of_not_lt h), zero_ceilDiv]
    rfl

theorem size_chunkFrom_le (size : Nat) (b : ByteArray) (start : Nat) :
    ∀ c ∈ chunksFrom size b start, c.size ≤ chunkSize size := by
  fun_induction chunksFrom size b start with
  | case1 start h ih =>
    refine List.forall_mem_cons.2 ⟨?_, ih⟩
    rw [ByteArray.size_extract]
    omega
  | case2 => simp

/-- A chunk that is not the last has all the bytes asked for. -/
theorem size_of_mem_dropLast_chunksFrom (size : Nat) (b : ByteArray) (start : Nat) :
    ∀ c ∈ (chunksFrom size b start).dropLast, c.size = chunkSize size := by
  fun_induction chunksFrom size b start with
  | case1 start h ih =>
    by_cases hlast : b.size ≤ start + chunkSize size
    · simp [chunksFrom_of_le hlast]
    · have hne : chunksFrom size b (start + chunkSize size) ≠ [] := by
        simp [chunksFrom_of_lt (Nat.lt_of_not_le hlast)]
      rw [List.dropLast_cons_of_ne_nil hne]
      refine List.forall_mem_cons.2 ⟨?_, ih⟩
      rw [ByteArray.size_extract]
      omega
  | case2 => simp

theorem chunks_ne_empty {size : Nat} {b c : ByteArray} (h : c ∈ chunks size b) : c ≠ .empty :=
  chunksFrom_ne_empty size b 0 c h

theorem foldl_chunks (size : Nat) (b : ByteArray) : (chunks size b).foldl (· ++ ·) .empty = b := by
  have h := foldl_chunksFrom size b 0
  rwa [ByteArray.extract_same] at h

namespace Reader

/-! ## Reading piece by piece -/

/-- One read gives the next bytes, not more than asked for, and none only at the end of the file. -/
theorem read_eq (n : Nat) (r : Reader) : ∃ k ≤ n, (r.read n).1.length = k ∧ (r.read n).1 = r.left.take k ∧
    (r.read n).2.left = r.left.drop k ∧ (n ≠ 0 → k = 0 → r.left = []) := by
  rcases Nat.le_total (min n (max (r.limits 0) 1)) r.left.length with hle | hle
  · refine ⟨_, Nat.min_le_left .., ?_, rfl, rfl, fun hn hk => by omega⟩
    exact List.length_take_of_le hle
  · refine ⟨r.left.length, hle.trans (Nat.min_le_left ..), ?_, ?_, ?_, fun hn hk => List.length_eq_zero_iff.1 hk⟩
    · rw [read, List.take_of_length_le hle]
    · rw [read, List.take_of_length_le hle, List.take_length]
    · rw [read, List.drop_of_length_le hle, List.drop_length]

/-- However short the single reads are, what is there in the end are the next `n` bytes of the file. -/
theorem fill_eq (n : Nat) (r : Reader) : (r.fill n).1 = r.left.take n ∧ (r.fill n).2.left = r.left.drop n := by
  fun_induction fill n r with
  | case1 r => simp
  | case2 n r hn got hgot =>
    obtain ⟨k, -, hk, -, hleft, hend⟩ := r.read_eq n
    have hk0 : k = 0 := by rw [← hk, List.length_eq_zero_iff]; exact List.isEmpty_iff.1 hgot
    have hnil : r.left = [] := hend hn hk0
    exact ⟨by simp [hnil], by rw [hleft, hnil]; simp⟩
  | case3 n r hn got hgot more ih =>
    obtain ⟨k, hkn, hk, hbytes, hleft, -⟩ := r.read_eq n
    have hlength : got.1.length = k := hk
    have hrest : more.1 = _ ∧ more.2.left = _ := ih
    rw [hlength, hleft, List.drop_drop, Nat.add_sub_cancel' hkn] at hrest
    refine ⟨?_, hrest.2⟩
    calc got.1 ++ more.1 = r.left.take k ++ (r.left.drop k).take (n - k) := congrArg₂ _ hbytes hrest.1
      _ = r.left.take n := by rw [← List.take_add, Nat.add_sub_cancel' hkn]

/-- The next chunk is the next bytes of the file, and there is none only at its end. -/
theorem next_eq {size : Nat} (hsize : size < chunkSizeLimit) (r : Reader) :
    (r.next size).1 = (if r.left = [] then .exhausted else .chunk ⟨(r.left.take (chunkSize size)).toArray⟩) ∧
      (r.next size).2.left = r.left.drop (chunkSize size) := by
  obtain ⟨hbytes, hleft⟩ := r.fill_eq (chunkSize size)
  have hempty : (r.fill (chunkSize size)).1.isEmpty = true ↔ r.left = [] := by
    have hpos := chunkSize_pos size
    rw [List.isEmpty_iff, hbytes, List.take_eq_nil_iff, or_iff_right hpos.ne']
  unfold next
  rw [if_neg (Nat.not_le.2 hsize)]
  by_cases hr : r.left = []
  · rw [if_pos (hempty.2 hr), if_pos hr]
    exact ⟨rfl, hleft⟩
  · rw [if_neg (mt hempty.1 hr), if_neg hr, hbytes]
    exact ⟨rfl, hleft⟩

/-- The answers from a place of the file on: its chunks from there, and nothing after them. -/
theorem answer_eq {size : Nat} (hsize : size < chunkSizeLimit) (b : ByteArray) (k : Nat) {start : Nat} {r : Reader}
    (hr : r.left = b.data.toList.drop start) :
    r.answer size k = (chunksFrom size b start)[k]?.elim .exhausted .chunk := by
  induction k generalizing start r with
  | zero =>
    have hnil : r.left = [] ↔ b.size ≤ start := by
      rw [hr, List.drop_eq_nil_iff, Array.length_toList]
      rfl
    show (r.next size).1 = _
    rw [(r.next_eq hsize).1]
    by_cases hstart : b.size ≤ start
    · rw [if_pos (hnil.2 hstart), chunksFrom_of_le hstart]
      rfl
    · have hbytes : (⟨(r.left.take (chunkSize size)).toArray⟩ : ByteArray) =
          b.extract start (start + chunkSize size) := by
        apply ByteArray.ext
        rw [hr, ByteArray.data_extract, ← Array.toList_inj, Array.toList_extract, List.extract_eq_take_drop,
          Nat.add_sub_cancel_left]
      rw [if_neg (mt hnil.1 hstart), chunksFrom_of_lt (Nat.lt_of_not_le hstart), hbytes]
      rfl
  | succ k ih =>
    have hnext : (r.next size).2.left = b.data.toList.drop (start + chunkSize size) := by
      rw [(r.next_eq hsize).2, hr, List.drop_drop]
    rw [getElem?_chunksFrom_succ]
    exact ih hnext

/-- A reader that cannot hold a chunk breaks down at once, and again whenever it is asked. -/
theorem answer_of_limit_le {size : Nat} (hsize : chunkSizeLimit ≤ size) (k : Nat) (r : Reader) :
    r.answer size k = .breakdown := by
  have hnext : r.next size = (.breakdown, r) := by rw [next, if_pos hsize]
  induction k with
  | zero => exact congrArg Prod.fst hnext
  | succ k ih =>
    show (r.next size).2.answer size k = .breakdown
    rw [hnext, ih]

/-! ## The whole file -/

/-- Chunks of `size` that partition a file, one for each answer of its reader until there is nothing left for ever. -/
structure Partitions (size : Nat) (b : ByteArray) (r : Reader) (cs : List ByteArray) : Prop where
  length_eq : cs.length = b.size ⌈/⌉ chunkSize size
  full : ∀ c ∈ cs.dropLast, c.size = chunkSize size
  bounds : ∀ c ∈ cs, 0 < c.size ∧ c.size ≤ chunkSize size
  whole : cs.foldl (· ++ ·) .empty = b
  answers : ∀ k, r.answer size k = cs[k]?.elim .exhausted .chunk

/-- **However short the single reads are, the chunks of a file partition it.** For every file, every size of chunks
that can be held and every schedule of reads, the answers of the reader are the chunks that the source of a tree
yields; there are as many as the quotient of the lengths, rounded up. -/
theorem answers_partition (size : Nat) (b : ByteArray) (limits : Nat → Nat) (hsize : size < chunkSizeLimit) :
    Partitions size b (ofFile b limits) (chunks size b) ∧
      Entry.reading size (.file b) = ⟨chunks size b, .complete⟩ := by
  refine ⟨⟨length_chunksFrom size b 0, size_of_mem_dropLast_chunksFrom size b 0, fun c hc => ⟨?_, ?_⟩,
    foldl_chunks size b, fun k => answer_eq hsize b k rfl⟩, ?_⟩
  · have hne := chunks_ne_empty hc
    exact Nat.pos_of_ne_zero fun h => hne (ByteArray.size_eq_zero_iff.1 h)
  · exact size_chunkFrom_le size b 0 c hc
  · rw [Entry.reading, if_neg (Nat.not_le.2 hsize)]

theorem answers_partition_five_bytes :
    2 < chunkSizeLimit ∧ ((ofFile ⟨#[1, 2, 3, 4, 5]⟩ fun i => i % 2).answer 2 0 = .chunk ⟨#[1, 2]⟩ ∧
      (ofFile ⟨#[1, 2, 3, 4, 5]⟩ fun i => i % 2).answer 2 2 = .chunk ⟨#[5]⟩ ∧
      ∀ k, (ofFile ⟨#[1, 2, 3, 4, 5]⟩ fun i => i % 2).answer 2 (k + 3) = .exhausted) := by
  have hsize : 2 < chunkSizeLimit := by decide
  obtain ⟨⟨-, -, -, -, hanswers⟩, -⟩ := answers_partition 2 ⟨#[1, 2, 3, 4, 5]⟩ (fun i => i % 2) hsize
  have hchunks : chunks 2 ⟨#[1, 2, 3, 4, 5]⟩ = [⟨#[1, 2]⟩, ⟨#[3, 4]⟩, ⟨#[5]⟩] := by decide +kernel
  rw [hchunks] at hanswers
  exact ⟨hsize, hanswers 0, hanswers 2, fun k => hanswers (k + 3)⟩

/-- A chunk of the size asked for may be too large to be held, whatever the file. -/
theorem not_forall_partitions :
    ¬ ∀ (size : Nat) (b : ByteArray) (limits : Nat → Nat), ∃ cs, Partitions size b (ofFile b limits) cs := by
  intro h
  obtain ⟨cs, hcs⟩ := h chunkSizeLimit ⟨#[97, 98, 99]⟩ id
  have hanswer := hcs.answers 0
  rw [answer_of_limit_le (Nat.le_refl _)] at hanswer
  cases h0 : cs[0]? <;> simp [h0] at hanswer

end Reader

end Custodian
