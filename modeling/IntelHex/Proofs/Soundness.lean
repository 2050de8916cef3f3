import IntelHex.Proofs.Operation

/-!
# No internal failure

The byte count of a record is built without a mask, and a refused digit leaves a decoder in the
middle of a field, with its counters already moved on. One invariant shows that the payload still
never leaves its buffer: the digits of the payload are counted against the byte count from the end of
the record type on, and the byte count is frozen by then. It holds in every decoder that can be
reached, whatever is fed to it and whatever its consumers do, so no payload digit is ever without a
place and no complete payload ever has the wrong length.
-/

namespace IntelHex

namespace Decoder

variable {κ : Type} {d after : Decoder κ} {action : Action κ}

/-- How the digits read so far are counted in each phase. Before the payload there are no payload
digits, inside it there is one to come and a place for it, and after it there are as many as
declared. A byte count that is still being read has at most one digit. -/
def Counted (d : Decoder κ) : Prop :=
  match d.phase with
  | .start => True
  | .within .byteCount =>
    d.fieldDigits < 2 ∧ d.frame.byteCount < 16 ∧ (d.fieldDigits = 0 → d.frame.byteCount = 0) ∧
      d.frame.payloadDigits = 0
  | .within .address => d.frame.payloadDigits = 0
  | .within .recordType => d.frame.payloadDigits = 0
  | .within .data =>
    0 < d.frame.byteCount ∧ d.frame.byteCount ≤ d.capacity ∧
      d.frame.payloadDigits < 2 * d.frame.byteCount
  | .within .checksum => d.frame.payloadDigits = 2 * d.frame.byteCount

/-- The buffer, the fields and the counters of a decoder fit together. -/
structure Sound (d : Decoder κ) : Prop where
  /-- The buffer keeps its size. -/
  buffer : d.frame.payload.size = d.capacity
  /-- The byte count has two digits. -/
  byteCount_lt : d.frame.byteCount < 256
  /-- The low half of the address has four digits. -/
  addressLow_lt : d.frame.addressLow < 65536
  /-- The upper part of the addresses has two bytes. -/
  high_lt : d.addressing.high < 65536
  /-- The digits are counted as the phase demands. -/
  counted : d.Counted

/-- A new decoder is sound. -/
theorem sound_fresh (consumer : Option κ) (capacity : Nat) (supported : List Int) :
    (fresh consumer capacity supported).Sound :=
  ⟨rfl, show 0 < 256 by decide, show 0 < 65536 by decide, show 0 < 65536 by decide, trivial⟩

/-- Two bytes make a number of at most 16 bits. -/
theorem extension_lt (f : Frame) : f.extension < 65536 := by
  have hfirst := ((f.payload.get? 0).getD 0).toNat_lt
  have hsecond := ((f.payload.get? 1).getD 0).toNat_lt
  unfold Frame.extension
  omega

/-- The upper part of the addresses keeps its width. -/
theorem Sound.extendedAddressing_lt (hs : d.Sound) : d.extendedAddressing.high < 65536 := by
  unfold extendedAddressing
  split
  · exact extension_lt _
  · exact extension_lt _
  · exact hs.high_lt

/-- A payload digit is counted, and the fields before it are left alone. -/
theorem pushPayload?_eq {f g : Frame} {digit : Digit} (h : f.pushPayload? digit = some g) :
    g.byteCount = f.byteCount ∧ g.addressLow = f.addressLow ∧
      g.payloadDigits = f.payloadDigits + 1 := by
  unfold Frame.pushPayload? at h
  split at h
  · cases h
    exact ⟨rfl, rfl, rfl⟩
  · cases h

/-- A digit keeps a decoder sound. -/
theorem Reads.sound {digit : Digit} {field : Field} (hs : d.Sound) (hphase : d.phase = .within field)
    (h : Reads d digit field after action) : after.Sound := by
  have hdigit := digit.isLt
  have hcounted := hs.counted
  rw [Counted, hphase] at hcounted
  cases h with
  | countDigit hmore =>
    obtain ⟨-, -, hzero, hnone⟩ := hcounted
    have hcount : 16 * d.frame.byteCount + digit.val < 16 := by
      rw [hzero (by omega)]
      omega
    refine ⟨hs.buffer, Nat.lt_trans hcount (by decide), hs.addressLow_lt, hs.high_lt, ?_⟩
    rw [Counted, hphase]
    exact ⟨hmore, hcount, fun h => (Nat.succ_ne_zero _ h).elim, hnone⟩
  | countEnd hlast =>
    obtain ⟨-, hsmall, -, hnone⟩ := hcounted
    have hcount : 16 * d.frame.byteCount + digit.val < 256 := by omega
    exact ⟨hs.buffer, hcount, hs.addressLow_lt, hs.high_lt, hnone⟩
  | addressDigit hmore =>
    refine ⟨hs.buffer, hs.byteCount_lt, Nat.mod_lt _ (by decide), hs.high_lt, ?_⟩
    rw [Counted, hphase]
    exact hcounted
  | addressEnd hlast =>
    exact ⟨hs.buffer, hs.byteCount_lt, Nat.mod_lt _ (by decide), hs.high_lt, hcounted⟩
  | typeBeforeChecksum hlater htype hempty =>
    refine ⟨hs.buffer, hs.byteCount_lt, hs.addressLow_lt, hs.high_lt, ?_⟩
    change d.frame.payloadDigits = 2 * d.frame.byteCount
    rw [hempty]
    exact hcounted
  | typeBeforeData hlater htype hfits hsome =>
    refine ⟨hs.buffer, hs.byteCount_lt, hs.addressLow_lt, hs.high_lt, ?_⟩
    have hdigits : d.frame.payloadDigits < 2 * d.frame.byteCount := by
      change d.frame.payloadDigits = 0 at hcounted
      omega
    exact ⟨Nat.pos_of_ne_zero hsome, hfits, hdigits⟩
  | dataDigit frame hpush hmore =>
    obtain ⟨hpos, hfits, hless⟩ := hcounted
    obtain ⟨hcount, hlow, hpushed⟩ := pushPayload?_eq hpush
    refine ⟨(Frame.size_pushPayload? hpush).trans hs.buffer, hcount ▸ hs.byteCount_lt,
      hlow ▸ hs.addressLow_lt, hs.high_lt, ?_⟩
    rw [Counted, hphase]
    unfold Frame.size at hmore
    rw [hcount, hpushed] at hmore
    exact ⟨hcount ▸ hpos, hcount ▸ hfits, show frame.payloadDigits < 2 * frame.byteCount by omega⟩
  | dataEnd frame hpush hlast =>
    obtain ⟨-, -, hless⟩ := hcounted
    obtain ⟨hcount, hlow, hpushed⟩ := pushPayload?_eq hpush
    refine ⟨(Frame.size_pushPayload? hpush).trans hs.buffer, hcount ▸ hs.byteCount_lt,
      hlow ▸ hs.addressLow_lt, hs.high_lt, ?_⟩
    unfold Frame.size at hlast
    rw [hcount, hpushed] at hlast
    show frame.payloadDigits = 2 * frame.byteCount
    omega
  | finish hlater hcount hsum hkind =>
    exact ⟨hs.buffer, hs.byteCount_lt, hs.addressLow_lt, hs.extendedAddressing_lt, trivial⟩
  | overrun hfull => exact hs
  | _ =>
    -- the remaining cases move neither on to another phase nor a counted field
    refine ⟨hs.buffer, hs.byteCount_lt, hs.addressLow_lt, hs.high_lt, ?_⟩
    rw [Counted, hphase]
    exact hcounted

/-- Adding a digit to the checksum keeps a decoder sound. -/
theorem Sound.absorb (hs : d.Sound) (digit : Digit) : (d.absorb digit).Sound := by
  rw [absorb_eq]
  exact ⟨hs.buffer, hs.byteCount_lt, hs.addressLow_lt, hs.high_lt, hs.counted⟩

/-- A byte keeps a decoder sound. -/
theorem Moves.sound {b : UInt8} (hs : d.Sound) (h : Moves d b after action) : after.Sound := by
  cases h with
  | recordMark hphase hb =>
    exact ⟨rfl, show 0 < 256 by decide, show 0 < 65536 by decide, hs.high_lt,
      show 0 < 2 by decide, show 0 < 16 by decide, fun _ => rfl, rfl⟩
  | invalidDigit field hphase hb => exact hs
  | digit field digit after action hphase hb hreads =>
    exact hreads.sound (hs.absorb digit) ((phase_absorb d digit).trans hphase)
  | _ => exact ⟨hs.buffer, hs.byteCount_lt, hs.addressLow_lt, hs.high_lt, hs.counted⟩

/-- Soundness is kept by every byte and by every operation. -/
theorem stable_sound : Stable (@Sound κ) where
  advance d b hs := (moves_advance d b).sound hs
  enterStart d hs := ⟨hs.buffer, hs.byteCount_lt, hs.addressLow_lt, hs.high_lt, trivial⟩
  reset d hs :=
    ⟨hs.buffer, hs.byteCount_lt, show 0 < 65536 by decide, show 0 < 65536 by decide, trivial⟩
  advanceByte d hs := ⟨hs.buffer, hs.byteCount_lt, hs.addressLow_lt, hs.high_lt, hs.counted⟩
  register d consumer hs :=
    ⟨hs.buffer, hs.byteCount_lt, hs.addressLow_lt, hs.high_lt, hs.counted⟩
  setError d failure hs :=
    ⟨hs.buffer, hs.byteCount_lt, hs.addressLow_lt, hs.high_lt, hs.counted⟩

/-- A decoder that comes of a new one by some operations, whatever the consumers do meanwhile. -/
def Reachable (d : Decoder κ) : Prop :=
  ∃ (σ : Type) (host : Host κ σ) (consumer : Option κ) (capacity : Nat) (supported : List Int)
    (world : σ) (traced : Bool) (ops : List (Operation κ)),
    ((Run.start (fresh consumer capacity supported) world traced).performAll host ops).2.decoder = d

/-- A new decoder is reached by no operation at all. -/
theorem reachable_fresh (consumer : Option κ) (capacity : Nat) (supported : List Int) :
    (fresh consumer capacity supported).Reachable :=
  ⟨Unit, fun _ _ world => ({ verdict := .accept }, world), consumer, capacity, supported, (), false,
    [], rfl⟩

/-- Every decoder that can be reached is sound. -/
theorem Reachable.sound (h : d.Reachable) : d.Sound := by
  obtain ⟨σ, host, consumer, capacity, supported, world, traced, ops, rfl⟩ := h
  exact Run.stable_performAll stable_sound host ops (sound_fresh consumer capacity supported)

/-- Inside the payload the buffer has a byte for the next digit. -/
theorem Sound.size_lt (hs : d.Sound) (hphase : d.phase = .within .data) :
    d.frame.size < d.frame.payload.size := by
  have hcounted := hs.counted
  rw [Counted, hphase] at hcounted
  obtain ⟨-, hfits, hless⟩ := hcounted
  have hbuffer := hs.buffer
  unfold Frame.size
  omega

/-- An action that betrays no inconsistency between the payload and its declared length. -/
def Consistent (action : Action κ) : Prop :=
  action ≠ .overrun ∧ ∀ declared found, action ≠ .refuse (.countMismatch declared found)

/-- A digit never shows a sound decoder inconsistent. -/
theorem Reads.consistent {digit : Digit} {field : Field} (hs : d.Sound)
    (hphase : d.phase = .within field) (h : Reads d digit field after action) :
    Consistent action := by
  cases h with
  | overrun hfull => exact absurd (hs.size_lt hphase) (Nat.not_lt_of_le hfull)
  | countMismatch hlater hcount =>
    have hcounted := hs.counted
    rw [Counted, hphase] at hcounted
    exact absurd hcounted.symm hcount
  | _ => exact ⟨nofun, nofun⟩

/-- A byte never shows a sound decoder inconsistent. -/
theorem Moves.consistent {b : UInt8} (hs : d.Sound) (h : Moves d b after action) :
    Consistent action := by
  cases h with
  | digit field digit after action hphase hb hreads =>
    exact hreads.consistent (hs.absorb digit) ((phase_absorb d digit).trans hphase)
  | _ => exact ⟨nofun, nofun⟩

end Decoder

/-- How feeding ends if nothing goes wrong inside the decoder: with a verdict on the bytes, or with
what a consumer has raised. -/
inductive Answered {κ σ : Type} (host : Host κ σ) : Except Abort Intake → Prop
  /-- Every byte was accepted. -/
  | accepted : Answered host (.ok .accepted)
  /-- A byte was refused. -/
  | refused (failure : Failure)
      (hcause : ∀ declared found, failure.cause ≠ .countMismatch declared found) :
    Answered host (.ok (.refused (.own failure)))
  /-- A consumer broke off with a decoding error. -/
  | failed (error : ForeignError) (consumer : κ) (block : Delivery) (world : σ)
      (hfail : (host consumer block world).1.verdict = .fail error) :
    Answered host (.ok (.refused (.foreign error)))
  /-- A consumer broke off with another error. -/
  | raised (message : String) (consumer : κ) (block : Delivery) (world : σ)
      (hraise : (host consumer block world).1.verdict = .raise message) :
    Answered host (.error (.raised message))

namespace Run

variable {κ σ : Type}

/-- A sound decoder stops only at a refused byte or where a consumer broke off. -/
theorem answered_of_step {host : Host κ σ} {b : UInt8} {r : Run κ σ} {stop : Stop}
    (hs : r.decoder.Sound) (hstop : (r.step host b).1 = some stop) (next : Run κ σ) :
    Answered host (conclude (some stop, next)).1 := by
  have hconsistent := (Decoder.moves_advance r.decoder b).consistent hs
  have hsteps := steps_step host b r
  rw [hstop] at hsteps
  generalize (r.step host b).2 = after at hsteps
  cases hsteps with
  | refuse haction =>
    refine .refused _ fun declared found hcause => hconsistent.2 declared found ?_
    exact haction.trans (congrArg Action.refuse hcause)
  | overrun haction => exact absurd haction hconsistent.1
  | reject => exact .refused _ nofun
  | fail haction hverdict => exact .failed _ _ _ _ hverdict
  | raise haction hverdict => exact .raised _ _ _ _ hverdict

/-- Feeding a sound decoder ends with an answer. -/
theorem answered_feed (host : Host κ σ) (data : List UInt8) {r : Run κ σ} (hs : r.decoder.Sound) :
    Answered host (r.feed host data).1 := by
  have hstart : (r.setError none).decoder.Sound := Decoder.stable_sound.setError _ _ hs
  rw [feed_eq_conclude]
  rcases hread : readBytes host data (r.setError none) with ⟨_ | stop, next⟩
  · exact .accepted
  · obtain ⟨before, b, hbefore, hstop⟩ :=
      exists_step_of_readBytes Decoder.stable_sound.toKept hstart (by rw [hread])
    exact answered_of_step hbefore hstop next

/-- Feeding a sound decoder from a source ends with an answer. -/
theorem answered_drain (host : Host κ σ) (size : Nat) (source : Source) {r : Run κ σ}
    (hs : r.decoder.Sound) : Answered host (r.drain host size source).1 := by
  fun_induction drain host size source r with
  | case1 source r hempty => exact .accepted
  | case2 source r hchunk next heq hmem => exact .accepted
  | case3 source r hchunk next heq hmem ih =>
    have hfed := stable_feed Decoder.stable_sound host (source.read size).1 hs
    rw [heq] at hfed
    exact ih hfed
  | case4 source r hchunk stopped next hstopped heq =>
    have hanswered := answered_feed host (source.read size).1 hs
    rwa [heq] at hanswered

/-- The size of the buffer is never changed. -/
theorem capacity_performAll (host : Host κ σ) (ops : List (Operation κ)) (r : Run κ σ) :
    (r.performAll host ops).2.decoder.capacity = r.decoder.capacity :=
  stable_performAll (Decoder.stable_capacity (· = r.decoder.capacity)) host ops rfl

/-- After any operations on a new decoder, whatever its consumers do, the payload buffer has its
size, the payload is counted within it, and every field keeps its width. From there a feed with a
valid count, and a source that can be read, end with an answer: no digit is without a place, no
complete payload has the wrong length, and nothing is raised but by a consumer. -/
theorem payload_stays_in_buffer (host : Host κ σ) (consumer : Option κ) (capacity : Nat)
    (supported : List Int) (world : σ) (traced : Bool) (ops : List (Operation κ)) :
    let r := ((Run.start (.fresh consumer capacity supported) world traced).performAll host ops).2
    let d := r.decoder
    d.frame.payload.toList.length = capacity ∧
      (d.phase = .within .data →
        0 < d.frame.byteCount ∧ d.frame.byteCount ≤ capacity ∧
          d.frame.payloadDigits < 2 * d.frame.byteCount ∧
          d.frame.size < d.frame.payload.toList.length) ∧
      (d.phase = .within .checksum → d.frame.payloadDigits = 2 * d.frame.byteCount) ∧
      d.frame.byteCount ≤ 255 ∧ (∀ b ∈ d.frame.payload.toList, b.toNat ≤ 255) ∧
      d.checksum.toNat ≤ 255 ∧ (∀ digit ∈ d.pending, digit.val ≤ 15) ∧
      (∀ data count, (∀ n ∈ count, 0 ≤ n ∧ n ≤ (data.length : Int)) →
        Answered host (r.feedCounted host data count).1) ∧
      (∀ size source, 0 < size → source.refusal? size.toNat = none →
        Answered host (r.feedSource host size source).1) := by
  intro r d
  have hs : d.Sound := stable_performAll Decoder.stable_sound host ops
    (Decoder.sound_fresh consumer capacity supported)
  have hcapacity : d.capacity = capacity := capacity_performAll host ops _
  have hlength : d.frame.payload.toList.length = d.capacity := by
    rw [Buffer.length_toList, hs.buffer]
  refine ⟨hlength.trans hcapacity, fun hphase => ?_, fun hphase => ?_,
    Nat.le_of_lt_succ hs.byteCount_lt, fun b _ => Nat.le_of_lt_succ b.toNat_lt,
    Nat.le_of_lt_succ d.checksum.toNat_lt, fun digit _ => Nat.le_of_lt_succ digit.isLt, ?_, ?_⟩
  · have hcounted := hs.counted
    rw [Decoder.Counted, hphase] at hcounted
    obtain ⟨hpos, hfits, hless⟩ := hcounted
    have hplace := hs.size_lt hphase
    rw [← Buffer.length_toList] at hplace
    exact ⟨hpos, hcapacity ▸ hfits, hless, hplace⟩
  · have hcounted := hs.counted
    rwa [Decoder.Counted, hphase] at hcounted
  · intro data count hcount
    cases count with
    | none =>
      rw [feedCounted_none]
      exact answered_feed host data hs
    | some n =>
      rw [feedCounted_of_valid (hcount n rfl)]
      exact answered_feed host _ hs
  · intro size source hsize hread
    unfold feedSource
    rw [if_neg (Int.not_le.2 hsize), hread]
    exact answered_drain host size.toNat source hs

/-- A record of two payload bytes, cut after the first one, in front of a consumer that breaks off: the
next digit has its place, and feeding the rest ends with an answer. -/
theorem payload_stays_in_buffer_inside_record :
    let host : Host Unit Unit := fun _ _ world => ({ verdict := .raise "boom" }, world)
    let text : List UInt8 := [0x3A, 0x30, 0x32, 0x30, 0x30, 0x30, 0x30, 0x30, 0x30, 0x41, 0x42]
    let rest : List UInt8 := [0x30, 0x30, 0x35, 0x33, 0x3A]
    let r := ((Run.start (.fresh (some ()) 2 [0]) () true).performAll host [.feed text none]).2
    r.decoder.phase = .within .data ∧
      r.decoder.frame.size < r.decoder.frame.payload.toList.length ∧
      Answered host (r.feedCounted host rest (some 4)).1 ∧
      Answered host (r.feedSource host 3 (.ofBytes rest)).1 := by
  intro host text rest r
  obtain ⟨-, hdata, -, -, -, -, -, hfeed, hsource⟩ :=
    payload_stays_in_buffer host (some ()) 2 [0] () true [.feed text none]
  have hsize := (hdata (by decide +kernel)).2.2.2
  -- reducibly, or the buffers of both sides are computed before they are compared
  refine ⟨by decide +kernel, by with_reducible exact hsize, hfeed rest (some 4) ?_,
    hsource 3 (.ofBytes rest) ?_ ?_⟩
  · rintro n ⟨⟩
    decide
  · decide
  · decide

end Run

end IntelHex
