import Custodian.Proofs.Digest
import Custodian.Proofs.Download

/-!
# The segments of a stream

What a stream of pieces says, apart from how it is taken in: every name stands before the pieces up to the next name,
and of these the contents up to the first checksum belong to it. `Download.segments` : the files that a stream names
below a directory, each with its bytes and with the checksum that closes it, if one does; `rejectedNames` : the names
that lead nowhere. `Received.outcome_eq` : the outcome of a download is read off them.
-/

namespace Custodian

set_option autoImplicit false

namespace Piece

/-- Whether a piece names a file. -/
def isName : Piece → Bool
  | .name _ => true
  | _ => false

/-- The bytes that a piece carries. -/
def bytes? : Piece → Option ByteArray
  | .content b => some b
  | _ => none

/-- The checksum that a piece carries. -/
def digits? : Piece → Option String
  | .checksum s => some s
  | _ => none

end Piece

namespace Download

/-! ## What a stream says -/

/-- The pieces before the next name. -/
def body (ps : List Piece) : List Piece := ps.takeWhile (!·.isName)

/-- The names in a row of pieces, each with the pieces up to the next one. -/
def named : List Piece → List (String × List Piece)
  | [] => []
  | .name s :: ps => (s, body ps) :: named ps
  | _ :: ps => named ps

/-- The bytes of all content up to the first checksum. -/
def contentOf (ps : List Piece) : ByteArray :=
  ((ps.takeWhile (·.digits?.isNone)).filterMap Piece.bytes?).foldl (· ++ ·) .empty

/-- The first checksum. -/
def closingOf (ps : List Piece) : Option String := ps.findSome? Piece.digits?

/-- A file that a stream names: its name, its path, its bytes, and the checksum that closes it, if one does. -/
structure Segment where
  name : String
  path : String
  content : ByteArray
  closing : Option String
deriving DecidableEq

namespace Segment

/-- Whether a segment is closed by the digest of its bytes. -/
def verified (s : Segment) : Bool := s.closing = some (Digest.of s.content)

/-- Whether a segment is closed by anything else. -/
def mismatched (s : Segment) : Bool := s.closing.isSome && !s.verified

end Segment

/-- The segment of a name and the pieces after it, if the name leads somewhere. -/
def segment? (dir : String) (named : String × List Piece) : Option Segment :=
  (restorePath? dir named.1).map fun path => ⟨named.1, path, contentOf named.2, closingOf named.2⟩

/-- The segments of a row of pieces below a directory. -/
def segments (dir : String) (ps : List Piece) : List Segment := (named ps).filterMap (segment? dir)

/-- The names that lead nowhere. -/
def rejectedNames (dir : String) (ps : List Piece) : List String :=
  ((named ps).map (·.1)).filter fun name => (restorePath? dir name).isNone

/-! ## A segment that has begun -/

theorem foldl_append_bytes (bs : List ByteArray) (c : ByteArray) :
    bs.foldl (· ++ ·) c = c ++ bs.foldl (· ++ ·) .empty := by
  induction bs generalizing c with
  | nil => simp
  | cons b bs ih =>
    rw [List.foldl_cons, List.foldl_cons, ih, ih (.empty ++ b), ByteArray.empty_append, ByteArray.append_assoc]

theorem contentOf_content (b : ByteArray) (ps : List Piece) : contentOf (.content b :: ps) = b ++ contentOf ps := by
  have h : contentOf (.content b :: ps) =
      (b :: (ps.takeWhile (·.digits?.isNone)).filterMap Piece.bytes?).foldl (· ++ ·) .empty := rfl
  rw [h, List.foldl_cons, ByteArray.empty_append, foldl_append_bytes]
  rfl

/-- The file that is being received and its bytes so far. -/
abbrev Begun := Option (Current × ByteArray)

/-- What has begun, as a segment with a given end. -/
def ended (o : Begun) (closing : Option String) : List Segment :=
  (o.map fun (f, c) => ⟨f.name, f.path, c, closing⟩).toList

/-- The segments of a row of pieces when one has begun before. -/
def segmentsFrom (dir : String) (o : Begun) (ps : List Piece) : List Segment :=
  (o.map fun (f, c) => ⟨f.name, f.path, c ++ contentOf (body ps), closingOf (body ps)⟩).toList ++ segments dir ps

/-- The segment that a piece ends, if any, and what has begun after it. -/
def advance (dir : String) (piece : Piece) (o : Begun) : List Segment × Begun :=
  match piece with
  | .name n => (ended o none, (restorePath? dir n).map fun path => (⟨n, path⟩, .empty))
  | .content b => ([], o.map fun (f, c) => (f, c ++ b))
  | .checksum digits => (ended o (some digits), none)

theorem segmentsFrom_nil (dir : String) (o : Begun) : segmentsFrom dir o [] = ended o none := by
  cases o <;> simp [segmentsFrom, ended, segments, named, body, contentOf, closingOf]

theorem segmentsFrom_cons (dir : String) (piece : Piece) (o : Begun) (ps : List Piece) :
    segmentsFrom dir o (piece :: ps) = (advance dir piece o).1 ++ segmentsFrom dir (advance dir piece o).2 ps := by
  cases piece with
  | name n =>
    have hs : segments dir (.name n :: ps) = (segment? dir (n, body ps)).toList ++ segments dir ps := by
      rw [segments, named, List.filterMap_cons]
      cases segment? dir (n, body ps) <;> rfl
    have hn : segmentsFrom dir o (.name n :: ps) = ended o none ++ segments dir (.name n :: ps) := by
      cases o <;> simp [segmentsFrom, ended, body, contentOf, closingOf, Piece.isName]
    rw [hn, hs]
    cases hp : restorePath? dir n <;> simp [advance, segmentsFrom, segment?, hp]
  | content b =>
    cases o with
    | none => rfl
    | some fc =>
      have hb : body (.content b :: ps) = .content b :: body ps := rfl
      simp only [advance, segmentsFrom, Option.map_some, hb, contentOf_content, ← ByteArray.append_assoc]
      rfl
  | checksum digits =>
    cases o with
    | none => rfl
    | some fc =>
      have hc : contentOf (body (.checksum digits :: ps)) = .empty := rfl
      have hd : closingOf (body (.checksum digits :: ps)) = some digits := rfl
      simp only [advance, ended, segmentsFrom, Option.map_some, hc, hd, ByteArray.append_empty]
      rfl

theorem rejectedNames_cons (dir : String) (piece : Piece) (ps : List Piece) :
    rejectedNames dir (piece :: ps) = rejectedNames dir [piece] ++ rejectedNames dir ps := by
  cases piece with
  | name n => cases hp : restorePath? dir n <;> simp [rejectedNames, named, hp]
  | content b => rfl
  | checksum digits => rfl

/-- The segments are the files that the pieces open. -/
theorem map_path_segments (dir : String) (ps : List Piece) :
    (segments dir ps).map (·.path) = ps.filterMap (pathOf? dir) := by
  induction ps with
  | nil => rfl
  | cons piece ps ih =>
    cases piece with
    | name n =>
      cases hp : restorePath? dir n with
      | none =>
        simp only [segments, named, List.filterMap_cons, segment?, pathOf?, hp, Option.map_none]
        exact ih
      | some path =>
        simp only [segments, named, List.filterMap_cons, segment?, pathOf?, hp, Option.map_some, List.map_cons]
        exact congrArg (path :: ·) ih
    | content b => exact ih
    | checksum digits => exact ih

/-! ## The outcome of a download -/

/-- An outcome with what more segments and more rejected names add to it. -/
def Outcome.add (out : Outcome) (segs : List Segment) (rejected : List String) : Outcome :=
  ⟨out.verified + segs.countP (·.verified), out.mismatched ++ (segs.filter (·.mismatched)).map (·.name),
    out.rejected ++ rejected⟩

theorem Outcome.add_add (out : Outcome) (ss ts : List Segment) (rs qs : List String) :
    (out.add ss rs).add ts qs = out.add (ss ++ ts) (rs ++ qs) := by
  simp [Outcome.add, Nat.add_assoc]

@[simp] theorem Outcome.add_nil (out : Outcome) : out.add [] [] = out := by
  simp [Outcome.add]

variable {σ : Type} {sink : Sink σ} {dir : String} {p q : Progress σ} {piece : Piece} {ps : List Piece} {o : Begun}

/-- A download stands at what has begun: the file is the current one, and the running digest has its bytes. -/
def StandsAt (p : Progress σ) (o : Begun) : Prop :=
  p.current = o.map (·.1) ∧ ∀ f c, o = some (f, c) → p.engine.digest = Digest.empty.update c

theorem StandsAt.of_none (h : p.current = none) : StandsAt p none := ⟨h, fun _ _ h => by cases h⟩

theorem StandsAt.eq_none (ho : StandsAt p o) (h : p.current = none) : o = none := by
  cases o with
  | none => rfl
  | some fc => exact absurd (ho.1.symm.trans h) (by simp)

theorem StandsAt.eq_some (ho : StandsAt p o) {f : Current} (h : p.current = some f) :
    ∃ c, o = some (f, c) ∧ p.engine.digest.text = Digest.of c := by
  obtain ⟨hc, hd⟩ := ho
  cases o with
  | none => exact absurd (hc.symm.trans h) (by simp)
  | some fc =>
    obtain ⟨f', c⟩ := fc
    have hf : f' = f := Option.some.inj (hc.symm.trans h)
    subst hf
    exact ⟨c, rfl, congrArg Digest.text (hd _ _ rfl)⟩

theorem Took.standsAt (h : Took sink dir p piece (.ok ()) q) (ho : StandsAt p o) :
    StandsAt q (advance dir piece o).2 := by
  cases h with
  | rejected h => exact ⟨by simp [advance, h], by simp [advance, h]⟩
  | opened h hs =>
    refine ⟨by simp [advance, h], fun f c hfc => ?_⟩
    simp only [advance, h, Option.map_some, Option.some.injEq, Prod.mk.injEq] at hfc
    rw [← hfc.2, Digest.update_empty]
    rfl
  | strayContent h =>
    cases ho.eq_none h
    exact StandsAt.of_none h
  | written h hs =>
    obtain ⟨c, rfl, -⟩ := ho.eq_some h
    refine ⟨h, fun f' c' hfc => ?_⟩
    simp only [advance, Option.map_some, Option.some.injEq, Prod.mk.injEq] at hfc
    rw [← hfc.2, Digest.update_append, ← ho.2 _ _ rfl]
    rfl
  | strayChecksum h => exact StandsAt.of_none h
  | verified => exact StandsAt.of_none rfl
  | mismatched => exact StandsAt.of_none rfl

theorem Took.outcome_eq (h : Took sink dir p piece (.ok ()) q) (ho : StandsAt p o) :
    q.outcome = p.outcome.add (advance dir piece o).1 (rejectedNames dir [piece]) := by
  have abandoned (o : Begun) (rs : List String) :
      p.outcome.add (ended o none) rs = { p.outcome with rejected := p.outcome.rejected ++ rs } := by
    cases o <;> simp [Outcome.add, ended, Segment.verified, Segment.mismatched]
  cases h with
  | rejected h => simp [advance, abandoned, rejectedNames, named, h]
  | opened h hs => simp [advance, abandoned, rejectedNames, named, h]
  | strayContent h => exact (p.outcome.add_nil).symm
  | written h hs => exact (p.outcome.add_nil).symm
  | strayChecksum h =>
    cases ho.eq_none h
    exact (p.outcome.add_nil).symm
  | verified h hs hd =>
    obtain ⟨c, rfl, hc⟩ := ho.eq_some h
    simp [advance, ended, Outcome.add, rejectedNames, named, Segment.verified, Segment.mismatched, ← hc, hd]
  | mismatched h hs hd hr =>
    obtain ⟨c, rfl, hc⟩ := ho.eq_some h
    have hd' := Ne.symm hd
    simp [advance, ended, Outcome.add, rejectedNames, named, Segment.verified, Segment.mismatched, ← hc, hd']

/-- The outcome is read off the segments and the rejected names. -/
theorem Received.outcome_eq (h : Received sink dir p ps q) (ho : StandsAt p o) :
    q.outcome = p.outcome.add (segmentsFrom dir o ps) (rejectedNames dir ps) := by
  induction h generalizing o with
  | nil p =>
    rw [segmentsFrom_nil]
    cases o <;> simp [Outcome.add, ended, rejectedNames, named, Segment.verified, Segment.mismatched]
  | cons ht _ ih =>
    rw [segmentsFrom_cons, rejectedNames_cons, ← Outcome.add_add, ← ht.outcome_eq ho]
    exact ih (ht.standsAt ho)

end Download

end Custodian
