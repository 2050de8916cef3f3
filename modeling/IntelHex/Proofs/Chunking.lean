import IntelHex.Source
import IntelHex.Proofs.Feeding

/-!
# Where the input is cut

Feeding input in pieces, from a list of chunks or from a source, is feeding it in one piece. The
state of the consumers can be anything, so it can be a record of their calls: equal runs have made
the same calls. What carries the argument is that an accepted feed leaves nothing behind that the
next one would forget: it remembers no error.
-/

namespace IntelHex

/-- What a source yields when it is asked for up to `size` bytes at a time: chunks of one byte at
least and of `size` bytes at most, and an empty one only at the end. -/
inductive Source.Yields (size : Nat) : Source → List UInt8 → Prop
  /-- There is nothing left. -/
  | ended {source : Source} (hend : (source.read size).1 = []) : Yields size source []
  /-- There is a chunk, and more after it. -/
  | chunk {source : Source} {rest : List UInt8} (hchunk : (source.read size).1 ≠ [])
      (hsize : (source.read size).1.length ≤ size) (hrest : Yields size (source.read size).2 rest) :
    Yields size source ((source.read size).1 ++ rest)

/-- Bytes in one piece are yielded in chunks of any positive size. -/
theorem Source.yields_whole {size : Nat} (hsize : 0 < size) (medium : Medium) (data : List UInt8)
    (taken : Nat) : (Source.whole medium data taken).Yields size data := by
  induction hlength : data.length using Nat.strongRecOn generalizing data taken with
  | ind length ih =>
    by_cases hdata : data = []
    · subst hdata
      exact .ended List.take_nil
    · have hlong : 0 < data.length := List.length_pos_iff.2 hdata
      have hchunk : data.take size ≠ [] := by
        rw [Ne, List.take_eq_nil_iff, not_or]
        exact ⟨Nat.ne_of_gt hsize, hdata⟩
      have hshort : (data.drop size).length < length := by
        rw [List.length_drop]
        omega
      have hrest := ih _ hshort (data.drop size) (taken + (data.take size).length) rfl
      have hyields : (Source.whole medium data taken).Yields size
          (data.take size ++ data.drop size) :=
        .chunk hchunk (List.length_take_le size data) hrest
      rwa [List.take_append_drop] at hyields

/-- Parcels are yielded as they are, if none of them is empty or too long. -/
theorem Source.yields_parcels {size : Nat} (parcels : List (List UInt8)) (taken : Nat)
    (hparcels : ∀ parcel ∈ parcels, parcel ≠ [] ∧ parcel.length ≤ size) :
    (Source.parcels parcels taken).Yields size parcels.flatten := by
  induction parcels generalizing taken with
  | nil => exact .ended rfl
  | cons parcel rest ih =>
    obtain ⟨hchunk, hsize⟩ := hparcels parcel List.mem_cons_self
    have hrest := ih (taken + 1) fun other hother => hparcels other (List.mem_cons_of_mem _ hother)
    exact @Yields.chunk size (.parcels (parcel :: rest) taken) rest.flatten hchunk hsize hrest

/-- Reading bytes forgets no failure and remembers none. -/
theorem Decoder.kept_lastError {κ : Type} :
    Decoder.Kept fun d : Decoder κ => d.lastError = none where
  advance d b h := (Decoder.moves_advance d b).frame.2.2.2.trans h
  enterStart _ h := h
  reset _ _ := rfl
  advanceByte _ h := h

namespace Run

variable {κ σ : Type} {host : Host κ σ}

/-- Feeds chunk after chunk, up to the first one that is not taken in or ends the input. -/
def feedChunks (host : Host κ σ) : List (List UInt8) → Run κ σ → Except Abort Intake × Run κ σ
  | [], r => (.ok .accepted, r)
  | chunk :: rest, r =>
    match r.feed host chunk with
    | (.ok .accepted, next) =>
      if terminator ∈ chunk then (.ok .accepted, next) else feedChunks host rest next
    | stopped => stopped

/-- To remember what is remembered already changes nothing. -/
theorem setError_eq_self {r : Run κ σ} {error : Option DecodingError}
    (h : r.decoder.lastError = error) : r.setError error = r := by
  subst h
  rfl

/-- An accepted feed leaves no failure behind. -/
theorem lastError_of_accepted {data : List UInt8} {r next : Run κ σ}
    (h : r.feed host data = (.ok .accepted, next)) : next.decoder.lastError = none := by
  have hkept := kept_readBytes Decoder.kept_lastError host data (r := r.setError none) rfl
  rw [feed_eq_conclude] at h
  rcases hread : readBytes host data (r.setError none) with ⟨_ | stop, last⟩
  · rw [hread] at h hkept
    cases h
    exact hkept
  · rw [hread] at h
    cases stop <;> cases h

/-- Feeding nothing forgets the last failure. -/
theorem feed_nil (r : Run κ σ) : r.feed host [] = (.ok .accepted, r.setError none) := rfl

/-- Two pieces fed one after the other are fed like the two in one. -/
theorem feed_append (data rest : List UInt8) (r : Run κ σ) :
    r.feed host (data ++ rest) =
      match r.feed host data with
      | (.ok .accepted, next) =>
        if terminator ∈ data then (.ok .accepted, next) else next.feed host rest
      | stopped => stopped := by
  have hforgotten := kept_readBytes Decoder.kept_lastError host data (r := r.setError none) rfl
  simp only [feed_eq_conclude, readBytes_append]
  rcases hread : readBytes host data (r.setError none) with ⟨_ | stop, next⟩
  · rw [hread] at hforgotten
    simp only [conclude]
    by_cases hend : terminator ∈ data
    · simp only [if_pos hend]
    · simp only [if_neg hend, setError_eq_self hforgotten]
  · cases stop <;> rfl

/-- Chunks fed one after the other are fed like all of them in one. -/
theorem feedChunks_cons (chunk : List UInt8) (rest : List (List UInt8)) (r : Run κ σ) :
    r.feedChunks host (chunk :: rest) = r.feed host (chunk :: rest).flatten := by
  induction rest generalizing chunk r with
  | nil =>
    rw [feedChunks, List.flatten_cons, feed_append]
    split
    · next next heq =>
      rw [feedChunks, List.flatten_nil, feed_nil, setError_eq_self (lastError_of_accepted heq)]
    · rfl
  | cons following rest ih =>
    rw [feedChunks, List.flatten_cons, feed_append]
    simp only [ih]

/-- A source that yields some bytes is fed like these bytes in one piece. -/
theorem drain_of_yields (host : Host κ σ) {size : Nat} {source : Source} {data : List UInt8}
    (h : source.Yields size data) (r : Run κ σ) :
    ((r.drain host size source).1, (r.drain host size source).2.1) =
      if data = [] then (.ok .accepted, r) else r.feed host data := by
  induction h generalizing r with
  | ended hend => rw [drain, dif_pos hend, if_pos rfl]
  | @chunk source rest hchunk hsize hrest ih =>
    rw [drain, dif_neg hchunk, if_neg (by simp [hchunk]), feed_append]
    rcases hfed : r.feed host (source.read size).1 with ⟨outcome, next⟩
    match outcome with
    | .ok .accepted =>
      by_cases hend : terminator ∈ (source.read size).1
      · simp only [if_pos hend]
      · simp only [if_neg hend, ih]
        by_cases hempty : rest = []
        · rw [if_pos hempty, hempty, feed_nil, setError_eq_self (lastError_of_accepted hfed)]
        · rw [if_neg hempty]
    | .ok (.refused failure) => rfl
    | .error abort => rfl

/-- Cutting makes no difference, from any state and with any consumers: a list of chunks, a source and
a number of leading bytes are fed like the same bytes in one piece, and these like the bytes before
the first terminator. The outcome, the decoder, the consumers and the trace are all the same. A count
out of range is refused, and then nothing has changed at all. -/
theorem feed_whatever_the_cut (host : Host κ σ) (r : Run κ σ) :
    (∀ chunk rest, r.feedChunks host (chunk :: rest) = r.feed host (chunk :: rest).flatten) ∧
      (∀ data, r.feed host (data.takeWhile (· ≠ terminator)) = r.feed host data) ∧
      (∀ size source data, 0 < size → source.refusal? size.toNat = none →
        source.Yields size.toNat data → data ≠ [] →
        ((r.feedSource host size source).1, (r.feedSource host size source).2.1) =
          r.feed host data) ∧
      (∀ data count, r.feedCounted host data (some count) =
        if 0 ≤ count ∧ count ≤ data.length then r.feed host (data.take count.toNat)
        else (.error .countOverflow, r)) ∧
      ∀ data, r.feedCounted host data none = r.feed host data := by
  refine ⟨fun chunk rest => feedChunks_cons chunk rest r, fun data => ?_,
    fun size source data hsize hread hyields hdata => ?_, fun data count => ?_,
    fun data => feedCounted_none data r⟩
  · rw [feed_eq_conclude, feed_eq_conclude, readBytes_takeWhile]
  · have hdrain := drain_of_yields host hyields r
    rw [if_neg hdata] at hdrain
    rw [← hdrain, feedSource, if_neg (Int.not_le.2 hsize), hread]
  · split
    · next hcount => exact feedCounted_of_valid hcount r
    · next hcount => exact feedCounted_of_invalid hcount r

/-- A type 4 record and the beginning of a data record, the first cut inside a byte and the second
ended by a terminator, as chunks, from a source that gives three bytes at a time and from one that gives
the chunks as they are. -/
theorem feed_whatever_the_cut_inside_byte :
    let host : Host Unit (List Delivery) := fun _ block calls =>
      ({ verdict := .accept }, calls ++ [block])
    let first : List UInt8 := [0x3A, 0x30, 0x32, 0x30, 0x30, 0x30, 0x30, 0x30]
    let second : List UInt8 := [0x34, 0x30, 0x30, 0x31, 0x30, 0x45, 0x41, 0x3A, 0x30, 0x00, 0x78]
    let r := Run.start (.fresh (some ()) 255 [0, 4]) [] true
    (Source.ofBytes (first ++ second)).Yields 3 (first ++ second) ∧
      r.feedChunks host [first, second] = r.feed host (first ++ second) ∧
      ((r.feedSource host 3 (.ofBytes (first ++ second))).1,
        (r.feedSource host 3 (.ofBytes (first ++ second))).2.1) = r.feed host (first ++ second) ∧
      ((r.feedSource host 11 (.ofParcels [first, second])).1,
        (r.feedSource host 11 (.ofParcels [first, second])).2.1) = r.feed host (first ++ second) := by
  intro host first second r
  obtain ⟨hchunks, -, hsource, -, -⟩ := feed_whatever_the_cut host r
  have hyields : (Source.ofBytes (first ++ second)).Yields 3 (first ++ second) :=
    Source.yields_whole (by decide) .buffer (first ++ second) 0
  have hparcels : (Source.ofParcels [first, second]).Yields 11 (first ++ second) :=
    Source.yields_parcels [first, second] 0 (by decide)
  exact ⟨hyields, hchunks first [second],
    hsource 3 (.ofBytes (first ++ second)) (first ++ second) (by decide) (by decide) hyields
      (by decide),
    hsource 11 (.ofParcels [first, second]) (first ++ second) (by decide) (by decide) hparcels
      (by decide)⟩

end Run

end IntelHex
