import Mathlib.Data.List.GetD
import IntelHex.Proofs.Renewal
import IntelHex.Proofs.Soundness

/-!
# A larger buffer changes nothing but what is too large

The size of the payload buffer has a part in two things: in the question whether a payload is too large,
and in the zeros behind the payload. The zeros are never delivered, and where an address is read from a
payload that is too short, the bytes that are missing count as zero whether the buffer has them or not.
So a decoder with a larger buffer does the same at every step, as long as the one with the smaller
buffer refuses no payload for its size; and a byte count has two digits, so no payload is too large for
a buffer of 255 bytes.
-/

namespace IntelHex

/-- The cause is that a payload is too large for the buffer. -/
def Cause.IsOverflow (cause : Cause) : Prop :=
  ∃ declared capacity, cause = .countOverflow declared capacity

namespace Buffer

/-- The same buffer with more zeros behind it. -/
def grow (n : Nat) (b : Buffer) : Buffer :=
  ⟨b.size + n, b.written, Nat.le_add_right_of_le b.fits⟩

variable {b : Buffer} {n i : Nat}

/-- A byte of the smaller buffer is one of the larger. -/
theorem get?_grow (h : i < b.size) : (b.grow n).get? i = b.get? i := by
  have hgrown : i < (b.grow n).size := Nat.lt_add_right n h
  rw [get?, get?, if_pos h, if_pos hgrown]
  rfl

/-- Beyond the smaller buffer there are zeros. -/
theorem getD_get?_grow (b : Buffer) (n i : Nat) :
    ((b.grow n).get? i).getD 0 = (b.get? i).getD 0 := by
  by_cases h : i < b.size
  · rw [get?_grow h]
  · have hzero : b.written.getD i 0 = 0 :=
      List.getD_eq_default _ _ (Nat.le_trans b.fits (Nat.le_of_not_lt h))
    rw [get?, get?, if_neg h]
    split
    · exact hzero
    · rfl

/-- A byte is written in the same place of both. -/
theorem set_grow (h : i < b.size) (x : UInt8) : (b.grow n).set i x = (b.set i x).grow n := by
  have hgrown : i < (b.grow n).size := Nat.lt_add_right n h
  rw [set, set, dif_pos h, dif_pos hgrown]
  rfl

/-- The first bytes of the smaller buffer are those of the larger. -/
theorem take_grow {count : Nat} (h : count ≤ b.size) : (b.grow n).take count = b.take count := by
  have hgrown : count ≤ (b.grow n).size := Nat.le_add_right_of_le h
  rw [take, take, Nat.min_eq_left h, Nat.min_eq_left hgrown]
  rfl

end Buffer

namespace Frame

/-- The same record in a larger buffer. -/
def grow (n : Nat) (f : Frame) : Frame :=
  { f with payload := f.payload.grow n }

variable {f g : Frame} {n : Nat}

/-- A payload digit that has a place in the smaller buffer has the same in the larger. -/
theorem pushPayload?_grow {digit : Digit} (h : f.size < f.payload.size)
    (hpush : f.pushPayload? digit = some g) : (f.grow n).pushPayload? digit = some (g.grow n) := by
  unfold pushPayload? at hpush ⊢
  split at hpush
  · next b hb =>
    cases hpush
    have hgrown : (f.grow n).payload.get? (f.grow n).size = some b := (Buffer.get?_grow h).trans hb
    rw [hgrown]
    exact congrArg (fun payload => some { f with payload, payloadDigits := f.payloadDigits + 1 })
      (Buffer.set_grow h _)
  · cases hpush

/-- The payload is the same. -/
theorem data_grow (h : f.size ≤ f.payload.size) : (f.grow n).data = f.data :=
  Buffer.take_grow h

/-- The number given by the first two payload bytes is the same. -/
theorem extension_grow (f : Frame) (n : Nat) : (f.grow n).extension = f.extension := by
  rw [extension, extension, grow, Buffer.getD_get?_grow, Buffer.getD_get?_grow]

end Frame

namespace Decoder

variable {κ : Type} {d e after : Decoder κ} {action : Action κ} {b : UInt8} {n : Nat}

/-- The same decoder with a larger buffer. -/
def grow (n : Nat) (d : Decoder κ) : Decoder κ :=
  { d with capacity := d.capacity + n, frame := d.frame.grow n }

/-- The complete payload bytes lie within the buffer. -/
def Roomy (d : Decoder κ) : Prop :=
  d.frame.size ≤ d.frame.payload.size

/-- An empty record has its place in any buffer. -/
theorem roomy_of_blank {capacity : Nat} (h : d.frame = .blank capacity) : d.Roomy := by
  rw [Roomy, h]
  exact Nat.le_trans (Nat.le_of_eq (Nat.zero_div 2)) (Nat.zero_le _)

/-- A digit that is added to the checksum or kept is not one of the payload yet. -/
theorem Roomy.absorb (h : d.Roomy) (digit : Digit) : (d.absorb digit).Roomy := by
  rw [absorb_eq]
  exact h

/-- A digit keeps the payload within the buffer. -/
theorem Reads.roomy {digit : Digit} {field : Field} (hroomy : d.Roomy)
    (h : Reads d digit field after action) : after.Roomy := by
  cases h with
  | dataDigit frame hpush | dataEnd frame hpush =>
    have hplace : d.frame.size < d.frame.payload.size := by
      rw [← Frame.isSome_pushPayload? d.frame digit, hpush]
      rfl
    have hsize := Frame.size_pushPayload? hpush
    have hcount := (pushPayload?_eq hpush).2.2
    change frame.size ≤ frame.payload.size
    unfold Frame.size at hplace ⊢
    omega
  | _ => exact hroomy

/-- A byte keeps the payload within the buffer. -/
theorem Moves.roomy (hroomy : d.Roomy) (h : Moves d b after action) : after.Roomy := by
  cases h with
  | recordMark => exact roomy_of_blank rfl
  | digit field digit after action hphase hb hreads => exact hreads.roomy (hroomy.absorb digit)
  | _ => exact hroomy

/-- The addressing after the record is the same. -/
theorem extendedAddressing_grow (d : Decoder κ) (n : Nat) :
    (d.grow n).extendedAddressing = d.extendedAddressing := by
  unfold extendedAddressing
  rw [show (d.grow n).frame.extension = _ from d.frame.extension_grow n]
  rfl

/-- The event of the record is the same. -/
theorem recordEvent_grow (h : d.Roomy) : (d.grow n).recordEvent = d.recordEvent := by
  unfold recordEvent
  rw [show (d.grow n).frame.data = _ from Frame.data_grow h]
  rfl

/-- The data block of the record is the same. -/
theorem block_grow (h : d.Roomy) : (d.grow n).block = d.block := by
  rw [block, show (d.grow n).frame.data = _ from Frame.data_grow h]
  rfl

/-- A digit is added to the checksum or kept alike. -/
theorem absorb_grow (d : Decoder κ) (n : Nat) (digit : Digit) :
    (d.grow n).absorb digit = (d.absorb digit).grow n := by
  unfold absorb
  rw [show (d.grow n).pending = d.pending from rfl]
  split <;> rfl

/-- A digit is read alike, unless the payload is too large for the smaller buffer. -/
theorem Reads.grow {digit : Digit} {field : Field} (hs : d.Sound) (hroomy : d.Roomy)
    (hphase : d.phase = .within field) (n : Nat)
    (hfree : ∀ cause : Cause, cause.IsOverflow → action ≠ .refuse cause)
    (h : Reads d digit field after action) : Reads (d.grow n) digit field (after.grow n) action := by
  cases h with
  | countDigit hmore => exact .countDigit hmore
  | countEnd hlast => exact .countEnd hlast
  | addressDigit hmore => exact .addressDigit hmore
  | addressEnd hlast => exact .addressEnd hlast
  | typeDigit hfirst hzero => exact .typeDigit hfirst hzero
  | typeNotSmall hfirst hzero => exact .typeNotSmall hfirst hzero
  | unsupportedType hlater htype => exact .unsupportedType hlater htype
  | typeBeforeChecksum hlater htype hempty => exact .typeBeforeChecksum hlater htype hempty
  | countOverflow => exact absurd rfl (hfree _ ⟨_, _, rfl⟩)
  | typeBeforeData hlater htype hfits hsome =>
    exact .typeBeforeData hlater htype (Nat.le_add_right_of_le hfits) hsome
  -- a larger buffer would have a place for the digit, but so has the smaller one
  | overrun hfull => exact absurd (hs.size_lt hphase) (Nat.not_lt_of_le hfull)
  | dataDigit frame hpush hmore =>
    exact .dataDigit (frame.grow n) (Frame.pushPayload?_grow (hs.size_lt hphase) hpush) hmore
  | dataEnd frame hpush hlast =>
    exact .dataEnd (frame.grow n) (Frame.pushPayload?_grow (hs.size_lt hphase) hpush) hlast
  | checksumDigit hfirst => exact .checksumDigit hfirst
  | countMismatch hlater hcount => exact .countMismatch hlater hcount
  | checksumMismatch hlater hcount hsum => exact .checksumMismatch hlater hcount hsum
  | deliver consumer hlater hcount hsum hkind hconsumer =>
    rw [← recordEvent_grow hroomy (n := n), ← block_grow hroomy (n := n)]
    exact .deliver consumer hlater hcount hsum hkind hconsumer
  | finish hlater hcount hsum hkind =>
    have hreads : Reads (d.grow n) digit .checksum _ _ := .finish hlater hcount hsum hkind
    rw [extendedAddressing_grow] at hreads
    have hevent := recordEvent_grow (d := { d with addressing := d.extendedAddressing }) hroomy
      (n := n)
    rw [← hevent]
    exact hreads

/-- A byte is read alike, unless it makes the payload too large for the smaller buffer. -/
theorem Moves.grow (hs : d.Sound) (hroomy : d.Roomy) (n : Nat)
    (hfree : ∀ cause : Cause, cause.IsOverflow → action ≠ .refuse cause)
    (h : Moves d b after action) : Moves (d.grow n) b (after.grow n) action := by
  cases h with
  | lineFeed hphase hb => exact .lineFeed hphase hb
  | carriageReturn hphase hb => exact .carriageReturn hphase hb
  | recordMark hphase hb => exact .recordMark hphase hb
  | invalidStart hphase hlf hcr hmark => exact .invalidStart hphase hlf hcr hmark
  | invalidDigit field hphase hb => exact .invalidDigit field hphase hb
  | digit field digit after action hphase hb hreads =>
    have hgrown := hreads.grow (hs.absorb digit) (hroomy.absorb digit)
      ((phase_absorb d digit).trans hphase) n hfree
    rw [← absorb_grow] at hgrown
    exact .digit field digit _ _ hphase hb hgrown

/-- A decoder in order, and the same with a larger buffer. -/
structure GrownBy (n : Nat) (d e : Decoder κ) : Prop where
  sound : d.Sound
  roomy : d.Roomy
  eq_grow : e = d.grow n

/-- A larger buffer is not brought to light, unless a payload is too large for the smaller one. -/
theorem bisimulation_grownBy (n : Nat) :
    BisimulationUnless Cause.IsOverflow (GrownBy (κ := κ) n) where
  advance d e b h hfree := by
    obtain ⟨hs, hroomy, rfl⟩ := h
    have hmoves := moves_advance d b
    rw [(hmoves.grow hs hroomy n hfree).eq]
    exact ⟨rfl, hmoves.sound hs, hmoves.roomy hroomy, rfl⟩
  position _ _ h := h.eq_grow ▸ rfl
  addressOf _ _ low h := by
    rw [h.eq_grow]
    cases low <;> rfl
  enterStart d _ h :=
    ⟨stable_sound.enterStart d h.sound, h.roomy, h.eq_grow ▸ rfl⟩
  reset d _ h := ⟨stable_sound.reset d h.sound, h.roomy, h.eq_grow ▸ rfl⟩
  advanceByte d _ h := ⟨stable_sound.advanceByte d h.sound, h.roomy, h.eq_grow ▸ rfl⟩
  register d _ consumer h :=
    ⟨stable_sound.register d consumer h.sound, h.roomy, h.eq_grow ▸ rfl⟩
  setError d _ failure h :=
    ⟨stable_sound.setError d failure h.sound, h.roomy, h.eq_grow ▸ rfl⟩

/-- A new decoder with a smaller buffer, and one with a larger. -/
theorem grownBy_fresh (consumer : Option κ) (capacity : Nat) (supported : List Int) (n : Nat) :
    GrownBy n (fresh consumer capacity supported) (fresh consumer (capacity + n) supported) where
  sound := sound_fresh consumer capacity supported
  roomy := roomy_of_blank rfl
  eq_grow := rfl

/-- Nothing but the size of the buffer shows that it is larger. -/
theorem GrownBy.view_eq (h : GrownBy n d e) : { d.view with capacity := d.capacity + n } = e.view :=
  h.eq_grow ▸ rfl

/-- A digit makes a payload too large only for a buffer of less than 255 bytes. -/
theorem Reads.capacity_lt {digit : Digit} {field : Field} {cause : Cause} (hs : d.Sound)
    (h : Reads d digit field after (.refuse cause)) (hcause : cause.IsOverflow) :
    d.capacity < 255 := by
  obtain ⟨declared, capacity, rfl⟩ := hcause
  cases h with
  | countOverflow hlater htype hlarge hsome =>
    exact Nat.lt_of_lt_of_le hlarge (Nat.le_of_lt_succ hs.byteCount_lt)

/-- A byte makes a payload too large only for a buffer of less than 255 bytes. -/
theorem Moves.capacity_lt {cause : Cause} (hs : d.Sound) (h : Moves d b after (.refuse cause))
    (hcause : cause.IsOverflow) : d.capacity < 255 := by
  cases h with
  | digit field digit after action hphase hb hreads =>
    have hless := hreads.capacity_lt (hs.absorb digit) hcause
    rwa [absorb_eq] at hless
  | invalidStart | invalidDigit =>
    obtain ⟨_, _, hother⟩ := hcause
    cases hother

end Decoder

namespace Run

variable {κ σ : Type} {host : Host κ σ}

/-- A step of a sound decoder with a buffer of 255 bytes is not refused for the size of a payload. -/
theorem not_overflow_step (r : Run κ σ) (b : UInt8) (hs : r.decoder.Sound)
    (hlarge : 255 ≤ r.decoder.capacity) : ¬Stop.RefusedFor Cause.IsOverflow (r.step host b).1 := by
  rintro ⟨failure, hstop, hcause⟩
  have hmoves := Decoder.moves_advance r.decoder b
  have hsteps := steps_step host b r
  rw [hstop] at hsteps
  generalize (r.step host b).2 = next at hsteps
  cases hsteps with
  | refuse haction =>
    rw [haction] at hmoves
    exact absurd hlarge (Nat.not_le_of_lt (hmoves.capacity_lt hs hcause))
  | reject =>
    obtain ⟨_, _, hother⟩ := hcause
    cases hother

/-- A larger buffer alters nothing. If a new decoder with the smaller one never finds a payload too
large, whatever is done with it and whatever its consumers answer, then one with the larger buffer
gives the same results, leaves the consumers in the same state, traces the same events and shows the
same, up to the size of the buffer. With 255 bytes or more no payload is ever too large. -/
theorem larger_capacity_agrees (host : Host κ σ) (consumer : Option κ) {small large : Nat}
    (hle : small ≤ large) (supported : List Int) (world : σ) (traced : Bool)
    (ops : List (Operation κ)) :
    let tight := (Run.start (.fresh consumer small supported) world traced).performAll host ops
    let wide := (Run.start (.fresh consumer large supported) world traced).performAll host ops
    ((∀ result ∈ tight.1, ¬result.RefusedFor Cause.IsOverflow) →
      tight.1 = wide.1 ∧ tight.2.world = wide.2.world ∧ tight.2.trace = wide.2.trace ∧
        { tight.2.decoder.view with capacity := large } = wide.2.decoder.view) ∧
      (255 ≤ small → ∀ result ∈ tight.1, ¬result.RefusedFor Cause.IsOverflow) := by
  intro tight wide
  obtain ⟨n, rfl⟩ := Nat.exists_eq_add_of_le hle
  refine ⟨fun hfree => ?_, fun hlarge => ?_⟩
  · have hstart : InStep (Decoder.GrownBy n) Eq True
        (Run.start (.fresh consumer small supported) world traced)
        (Run.start (.fresh consumer (small + n) supported) world traced) :=
      ⟨Decoder.grownBy_fresh consumer small supported n, rfl, fun _ => ⟨rfl, rfl⟩⟩
    obtain ⟨hresults, hlast⟩ := hstart.performAll_unless (Decoder.bisimulation_grownBy n)
      (Host.agree_eq host) ops hfree
    have hcapacity : tight.2.decoder.capacity = small := capacity_performAll host ops _
    have hview := hlast.decoder.view_eq
    rw [show (performAll host ops _).2.decoder.capacity = small from hcapacity] at hview
    exact ⟨hresults, hlast.world, (hlast.trace trivial).2, hview⟩
  · exact not_refusedFor_performAll
      (Decoder.stable_sound.and (Decoder.stable_capacity (255 ≤ ·)))
      (fun before b hbefore => not_overflow_step before b hbefore.1 hbefore.2) ops
      ⟨Decoder.sound_fresh consumer small supported, hlarge⟩

/-- An address record with a single payload byte, and a data record: a buffer of one byte does for
both, and three bytes lead to the same address. -/
theorem larger_capacity_agrees_one_byte :
    let host : Host Unit (List Int) := fun _ block addresses =>
      ({ verdict := .accept }, addresses ++ [block.address])
    let ops : List (Operation Unit) :=
      [.feed [0x3A, 0x30, 0x31, 0x30, 0x30, 0x30, 0x30, 0x30, 0x34, 0x41, 0x42, 0x35, 0x30] none,
        .feed [0x3A, 0x30, 0x31, 0x30, 0x30, 0x30, 0x30, 0x30, 0x30, 0x31, 0x31, 0x45, 0x45] none]
    let run (capacity : Nat) :=
      (Run.start (.fresh (some ()) capacity [0, 4]) [] true).performAll host ops
    (run 1).2.world = [0xAB000000] ∧ (run 3).2.world = [0xAB000000] ∧
      (run 1).1 = (run 3).1 ∧ ∀ result ∈ (run 255).1, ¬result.RefusedFor Cause.IsOverflow := by
  intro host ops run
  have hworld : (run 1).2.world = [0xAB000000] := by decide
  have hfree : ∀ result ∈ (run 1).1, ¬result.RefusedFor Cause.IsOverflow := by
    have hresults : (run 1).1 = [.fed (.ok .accepted), .fed (.ok .accepted)] := rfl
    rw [hresults]
    simp [Operation.Result.RefusedFor, Intake.RefusedFor]
  obtain ⟨hresults, hsame, -, -⟩ :=
    (larger_capacity_agrees host (some ()) (by decide : 1 ≤ 3) [0, 4] [] true ops).1 hfree
  exact ⟨hworld, hsame.symm.trans hworld, hresults,
    (larger_capacity_agrees host (some ()) (Nat.le_refl 255) [0, 4] [] true ops).2 (by decide)⟩

end Run

end IntelHex
