import Custodian.Proofs.Digest
import Mathlib.Data.List.GetD

/-!
# The running digest is the standard one

* `compressBlocks_append` : full blocks can be folded in first;
* `Digest.Holds` : the bytes that a digest has taken in, cut where its last full block ends; `Holds.push`, `Holds.text` :
  one more byte, and the padding that brings the last bytes into a full block;
* `Digest.taken`, `Digest.of_eq_md5` : the digits of what has taken in some bytes are those of `md5`;
* `Digest.contents`, `Digest.run_taken` : what each of several digests has taken in after any acts;
* `Digest.checksum_eq_md5` : so their checksums are those of `md5`, whatever is updated, reset, read off and copied.
-/

namespace Custodian

set_option autoImplicit false

/-! ## Blocks -/

theorem compressBlocks_of_lt (s : ChainState) {bytes : List UInt8} (h : bytes.length < 64) :
    compressBlocks s bytes = s := by
  rw [compressBlocks, dif_neg (Nat.not_le.2 h)]

theorem compressBlocks_block (s : ChainState) {bytes : List UInt8} (h : bytes.length = 64) :
    compressBlocks s bytes = s.compress (blockWords fun i => bytes.getD i 0) := by
  rw [compressBlocks, dif_pos h.ge, List.drop_of_length_le h.le, compressBlocks_of_lt _ (by simp)]

theorem blockWords_congr {f g : Nat → UInt8} (h : ∀ i < 64, f i = g i) : blockWords f = blockWords g := by
  unfold blockWords
  congr 1
  funext i
  rw [h (4 * i) (by omega), h (4 * i + 1) (by omega), h (4 * i + 2) (by omega), h (4 * i + 3) (by omega)]

/-- Bytes that fill whole blocks can be folded in before the others. -/
theorem compressBlocks_append (s : ChainState) {full : List UInt8} (h : 64 ∣ full.length) (bytes : List UInt8) :
    compressBlocks s (full ++ bytes) = compressBlocks (compressBlocks s full) bytes := by
  fun_induction compressBlocks s full with
  | case1 s full hlen ih =>
    have hblock : blockWords (fun i => (full ++ bytes).getD i 0) = blockWords fun i => full.getD i 0 :=
      blockWords_congr fun i hi => List.getD_append _ _ _ _ (hi.trans_le hlen)
    have hdrop : 64 ∣ (full.drop 64).length := by
      rw [List.length_drop]
      exact Nat.dvd_sub h (Nat.dvd_refl 64)
    rw [compressBlocks, dif_pos (by simp; omega), List.drop_append_of_le_length hlen, hblock, ih hdrop]
  | case2 s full hlen =>
    have hnil : full = [] := List.length_eq_zero_iff.1 (Nat.eq_zero_of_dvd_of_lt h (Nat.lt_of_not_le hlen))
    rw [hnil, List.nil_append]

theorem byteAt_eq_getD (b : ByteArray) (i : Nat) : byteAt b i = b.data.toList.getD i 0 := by
  unfold byteAt
  split
  · rename_i h
    rw [List.getD_eq_getElem _ _ (by simpa using h)]
    rfl
  · rename_i h
    rw [List.getD_eq_default _ _ (by simpa using h)]

namespace Digest

/-! ## Bytes in pieces -/

/-- A digest has taken in some bytes: those of full blocks are folded into its state, the others wait. -/
structure Holds (g : Digest) (bytes : List UInt8) : Prop where
  count : g.count = bytes.length
  blocks : ∃ full, 64 ∣ full.length ∧ bytes = full ++ g.rest.data.toList ∧ g.state = compressBlocks .start full

variable {g : Digest} {bytes : List UInt8}

theorem holds_empty : Holds empty [] :=
  ⟨rfl, [], by simp, rfl, (compressBlocks_of_lt _ (by simp)).symm⟩

theorem Holds.push (h : g.Holds bytes) (b : UInt8) : (g.push b).Holds (bytes ++ [b]) := by
  obtain ⟨hcount, full, hfull, hbytes, hstate⟩ := h
  have hrest : (g.rest.push b).data.toList = g.rest.data.toList ++ [b] := by simp
  have happend : bytes ++ [b] = full ++ (g.rest.push b).data.toList := by
    rw [hbytes, hrest, List.append_assoc]
  unfold Digest.push
  dsimp only
  split
  · exact ⟨by simp [hcount], full, hfull, happend, hstate⟩
  · rename_i hsize
    -- the last block is full now
    have hlength : (g.rest.push b).data.toList.length = 64 := by
      have hlt := g.rest_lt
      have hpush : (g.rest.push b).size = g.rest.size + 1 := ByteArray.size_push ..
      have hlist : (g.rest.push b).data.toList.length = (g.rest.push b).size := Array.length_toList
      omega
    refine ⟨by simp [hcount], bytes ++ [b], ?_, by simp, ?_⟩
    · rw [happend, List.length_append, hlength]
      exact Nat.dvd_add hfull (Nat.dvd_refl 64)
    · rw [happend, compressBlocks_append _ hfull, ← hstate, compressBlocks_block _ hlength]
      exact congrArg (fun byte => g.state.compress (blockWords byte)) (funext (byteAt_eq_getD _))

theorem Holds.foldl_push (h : g.Holds bytes) (bs : List UInt8) : (bs.foldl Digest.push g).Holds (bytes ++ bs) := by
  induction bs generalizing g bytes with
  | nil => simpa using h
  | cons b bs ih => simpa using ih (h.push b)

/-- The padding brings the last bytes into a full block, so that nothing waits any more. -/
theorem Holds.text (h : g.Holds bytes) : g.text = md5 bytes := by
  obtain ⟨-, full, hfull, hpadded, hstate⟩ := h.foldl_push (padding bytes.length)
  have hrest : ((padding bytes.length).foldl Digest.push g).rest.data.toList = [] := by
    have hlength : 64 ∣ (bytes ++ padding bytes.length).length := by
      rw [List.length_append]
      exact Nat.dvd_of_mod_eq_zero (length_padded _)
    rw [hpadded, List.length_append, Nat.dvd_add_right hfull] at hlength
    exact List.length_eq_zero_iff.1 (Nat.eq_zero_of_dvd_of_lt hlength (Digest.rest_lt _))
  rw [hrest, List.append_nil] at hpadded
  rw [Digest.text, h.count, hstate, ← hpadded, md5]

/-- The digest that has taken in some bytes from the start. -/
def taken (bytes : List UInt8) : Digest := bytes.foldl Digest.push empty

theorem text_taken (bytes : List UInt8) : (taken bytes).text = md5 bytes := (holds_empty.foldl_push bytes).text

theorem update_taken (bytes : List UInt8) (b : ByteArray) : (taken bytes).update b = taken (bytes ++ b.data.toList) := by
  rw [taken, taken, List.foldl_append, Digest.update, foldl_eq_foldl_toList]

/-- The digest of all bytes at once is the standard one. -/
theorem of_eq_md5 (b : ByteArray) : of b = md5 b.data.toList :=
  (congrArg text (update_taken [] b)).trans (text_taken _)

/-! ## Digits -/

theorem upperHexDigit_mem : ∀ n < 16, upperHexDigit n ∈ "0123456789ABCDEF".toList := by decide

theorem mem_text {g : Digest} : ∀ c ∈ g.text.toList, c ∈ "0123456789ABCDEF".toList := by
  intro c hc
  rw [Digest.text, ChainState.text, String.toList_ofList, List.mem_flatMap] at hc
  obtain ⟨b, -, hc⟩ := hc
  have hb : b.toNat < 256 := b.toNat_lt
  rcases List.mem_pair.1 hc with rfl | rfl
  · exact upperHexDigit_mem _ (by omega)
  · exact upperHexDigit_mem _ (by omega)

/-! ## Several digests side by side -/

/-- The bytes that each of some digests has taken in since it was made, reset or read off, after one more act. -/
def contentsAfter (cs : List (List UInt8)) : Act → List (List UInt8)
  | .update i b => cs.modify i (· ++ b.data.toList)
  | .reset i | .checksum i => cs.set i []
  | .clone i => cs ++ [cs.getD i []]

/-- The same for a row of acts that begins with one new digest. -/
def contents (as : List Act) : List (List UInt8) := as.foldl contentsAfter [[]]

/-- The digest that an act is about. -/
def Act.index : Act → Nat
  | .update i _ | .reset i | .checksum i | .clone i => i

/-- Every act can be done to a digest that is there. -/
theorem isSome_act (gs : List Digest) (a : Act) : (act gs a).isSome ↔ a.index < gs.length := by
  cases a <;> simp [act, Act.index]

/-- Digests that have taken in some bytes each, after an act: the digits it gives, and what they have taken in then. -/
theorem act_taken {cs : List (List UInt8)} {gs : List Digest} {a : Act} {o : Option String}
    (h : act (cs.map taken) a = some (o, gs)) : gs = (contentsAfter cs a).map taken := by
  have hbytes {i : Nat} {g : Digest} (hg : (cs.map taken)[i]? = some g) : ∃ c, cs[i]? = some c ∧ taken c = g := by
    rwa [List.getElem?_map, Option.map_eq_some_iff] at hg
  cases a with
  | update i b =>
    obtain ⟨g, hg, h⟩ := Option.map_eq_some_iff.1 h
    obtain ⟨c, hc, rfl⟩ := hbytes hg
    cases h
    have hmodify : contentsAfter cs (.update i b) = cs.set i (c ++ b.data.toList) := by
      rw [contentsAfter, List.modify_eq_set_getElem?, hc]
      rfl
    rw [update_taken, hmodify, List.map_set]
  | reset i =>
    obtain ⟨g, hg, h⟩ := Option.map_eq_some_iff.1 h
    cases h
    rw [contentsAfter, List.map_set]
    rfl
  | checksum i =>
    obtain ⟨g, hg, h⟩ := Option.map_eq_some_iff.1 h
    cases h
    rw [contentsAfter, List.map_set]
    rfl
  | clone i =>
    obtain ⟨g, hg, h⟩ := Option.map_eq_some_iff.1 h
    obtain ⟨c, hc, rfl⟩ := hbytes hg
    cases h
    rw [contentsAfter, List.map_append, List.getD_eq_getElem?_getD, hc]
    rfl

theorem run_taken {cs : List (List UInt8)} {gs : List Digest} {as : List Act} (h : run (cs.map taken) as = some gs) :
    gs = (as.foldl contentsAfter cs).map taken := by
  induction as generalizing cs with
  | nil =>
    cases h
    rfl
  | cons a as ih =>
    obtain ⟨⟨o, gs'⟩, ha, hrest⟩ := Option.bind_eq_some_iff.1 h
    obtain rfl := act_taken ha
    exact ih hrest

/-- **A running digest depends only on the bytes since it last began.** Whatever has been done to some digests, the
checksum of each is the standard one of all bytes it has taken in since it was made, reset or read off, and it begins
anew then; a copy of it gives the same, and this touches no other. -/
theorem checksum_eq_md5 {as : List Act} {gs : List Digest} (h : run [empty] as = some gs) :
    (∀ a, (act gs a).isSome ↔ a.index < gs.length) ∧
      ∀ i < gs.length, ∃ bytes, (contents as)[i]? = some bytes ∧
        act gs (.checksum i) = some (some (md5 bytes), gs.set i empty) ∧
        (∃ g, act gs (.clone i) = some (none, gs ++ [g]) ∧
          act (gs ++ [g]) (.checksum gs.length) = some (some (md5 bytes), gs ++ [empty])) ∧
        (md5 bytes).length = 32 ∧ ∀ c ∈ (md5 bytes).toList, c ∈ "0123456789ABCDEF".toList := by
  refine ⟨isSome_act gs, fun i hi => ?_⟩
  have hstart : run ([[]].map taken) as = some gs := h
  obtain rfl : gs = (contents as).map taken := run_taken hstart
  rw [List.length_map] at hi
  have hbytes : (contents as)[i]? = some (contents as)[i] := List.getElem?_eq_getElem hi
  have hi' : ((contents as).map taken)[i]? = some (taken (contents as)[i]) := by
    rw [List.getElem?_map, hbytes]
    rfl
  refine ⟨_, hbytes, ?_, ⟨taken (contents as)[i], ?_, ?_⟩, ?_, ?_⟩
  · rw [act, hi', Option.map_some, text_taken]
  · rw [act, hi', Option.map_some]
  · rw [act, List.getElem?_concat_length, Option.map_some, text_taken, List.set_append_right _ _ (Nat.le_refl _),
      Nat.sub_self]
    rfl
  · rw [← text_taken]
    exact length_text _
  · rw [← text_taken]
    exact mem_text

theorem checksum_eq_md5_copied :
    ∃ gs, run [empty] [.update 0 ⟨#[97]⟩, .clone 0, .update 0 ⟨#[98, 99]⟩] = some gs ∧
      act gs (.checksum 0) = some (some "900150983CD24FB0D6963F7D28E17F72", gs.set 0 empty) ∧
      act gs (.checksum 1) = some (some "0CC175B9C0F1B6A831C399E269772661", gs.set 1 empty) := by
  have hrun : run [empty] [.update 0 ⟨#[97]⟩, .clone 0, .update 0 ⟨#[98, 99]⟩] =
      some [(empty.update ⟨#[97]⟩).update ⟨#[98, 99]⟩, empty.update ⟨#[97]⟩] := rfl
  obtain ⟨-, hall⟩ := checksum_eq_md5 hrun
  obtain ⟨abc, habc, hfirst, -⟩ := hall 0 (by decide)
  obtain ⟨a, ha, hsecond, -⟩ := hall 1 (by decide)
  obtain rfl : [97, 98, 99] = abc := Option.some.inj habc
  obtain rfl : [97] = a := Option.some.inj ha
  have hdigits : md5 [97, 98, 99] = "900150983CD24FB0D6963F7D28E17F72" := by decide +kernel
  have hdigits' : md5 [97] = "0CC175B9C0F1B6A831C399E269772661" := by decide +kernel
  rw [hdigits] at hfirst
  rw [hdigits'] at hsecond
  exact ⟨_, hrun, hfirst, hsecond⟩

end Digest

end Custodian
