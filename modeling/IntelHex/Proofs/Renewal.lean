import IntelHex.Proofs.Coupling

/-!
# A reset decoder is a new one

A reset leaves the last record in place, up to its address, and the digit that was kept last. Between
records nothing reads what is left: the next colon clears the record, and the next digit of a record
takes the place of the one that was kept. So the decoders on both sides of the comparison may differ
in these leftovers, as long as they are between records; a record that has begun is the same in both.
-/

namespace IntelHex

namespace Decoder

variable {κ : Type} {d e : Decoder κ}

/-- Decoders that differ in nothing but what is left of the last record. -/
structure SameButLeftovers (d e : Decoder κ) : Prop where
  capacity : d.capacity = e.capacity
  supported : d.supported = e.supported
  consumer : d.consumer = e.consumer
  phase : d.phase = e.phase
  fieldDigits : d.fieldDigits = e.fieldDigits
  pending : d.pending = e.pending
  checksum : d.checksum = e.checksum
  addressLow : d.frame.addressLow = e.frame.addressLow
  frame : d.phase ≠ .start → d.frame = e.frame
  addressing : d.addressing = e.addressing
  position : d.position = e.position
  lastError : d.lastError = e.lastError

namespace SameButLeftovers

/-- A decoder differs in nothing from itself. -/
theorem refl (d : Decoder κ) : SameButLeftovers d d :=
  ⟨rfl, rfl, rfl, rfl, rfl, rfl, rfl, rfl, fun _ => rfl, rfl, rfl, rfl⟩

/-- Inside a record, only the digit that was kept last can differ, and only while no partner of it is
due. The next digit takes its place or is its partner: then nothing differs any more. -/
theorem absorb_eq (h : SameButLeftovers d e) (hphase : d.phase ≠ .start) (digit : Digit) :
    d.absorb digit = e.absorb digit := by
  have hpending := h.pending
  have hsame : e = { d with pairing := e.pairing } := by
    rw [h.capacity, h.supported, h.consumer, h.phase, h.fieldDigits, h.checksum, h.frame hphase,
      h.addressing, h.position, h.lastError]
  rw [hsame] at hpending ⊢
  unfold absorb
  rw [← hpending]
  cases hhigh : d.pending with
  | none => rfl
  | some high =>
    rw [hhigh] at hpending
    have hkept : d.pairing.high = e.pairing.high :=
      (Pairing.high_of_pending hhigh).trans (Pairing.high_of_pending hpending.symm).symm
    have hrelease : d.pairing.release = e.pairing.release := by
      rw [Pairing.release, Pairing.release, hkept]
    simp only [hrelease]

/-- Inside a record, a byte is read alike. -/
theorem advance_within (h : SameButLeftovers d e) {field : Field} (hphase : d.phase = .within field)
    (b : UInt8) :
    (d.advance b).2 = (e.advance b).2 ∧ SameButLeftovers (d.advance b).1 (e.advance b).1 := by
  have hinside : d.phase ≠ .start := by
    rw [hphase]
    exact nofun
  unfold advance
  rw [← h.phase, hphase]
  cases Digit.ofByte? b with
  | none => exact ⟨rfl, h⟩
  | some digit =>
    simp only [h.absorb_eq hinside digit]
    exact ⟨trivial, refl _⟩

/-- A byte between records is taken alike, and a colon clears what is left. -/
theorem onStart (h : SameButLeftovers d e) (b : UInt8) :
    (d.onStart b).2 = (e.onStart b).2 ∧ SameButLeftovers (d.onStart b).1 (e.onStart b).1 := by
  unfold Decoder.onStart
  by_cases hlf : b = lineFeed
  · simp only [if_pos hlf]
    exact ⟨trivial, { h with position := congrArg Position.lineFeed h.position }⟩
  by_cases hcr : b = carriageReturn
  · simp only [if_neg hlf, if_pos hcr]
    exact ⟨trivial, { h with position := congrArg Position.carriageReturn h.position }⟩
  by_cases hmark : b = recordMark
  · simp only [if_neg hlf, if_neg hcr, if_pos hmark]
    exact ⟨trivial, { h with
      position := congrArg Position.recordMark h.position
      frame := fun _ => congrArg Frame.blank h.capacity
      addressLow := rfl, phase := rfl, fieldDigits := rfl }⟩
  · simp only [if_neg hlf, if_neg hcr, if_neg hmark]
    exact ⟨trivial, h⟩

/-- Between records, a byte is read alike. -/
theorem advance_start (h : SameButLeftovers d e) (hphase : d.phase = .start) (b : UInt8) :
    (d.advance b).2 = (e.advance b).2 ∧ SameButLeftovers (d.advance b).1 (e.advance b).1 := by
  have hsum : SameButLeftovers d.clearSum e.clearSum :=
    { h with pending := rfl, checksum := rfl }
  unfold advance
  rw [← h.phase, hphase]
  exact hsum.onStart b

end SameButLeftovers

/-- No byte and no operation brings the leftovers to light. -/
theorem bisimulation_sameButLeftovers : Bisimulation (SameButLeftovers (κ := κ)) where
  advance d e b h := by
    cases hphase : d.phase with
    | start => exact h.advance_start hphase b
    | within field => exact h.advance_within hphase b
  position _ _ h := h.position
  addressOf d e low h := by
    cases low with
    | none => simp only [addressOf, address, h.addressing, h.addressLow]
    | some low => simp only [addressOf, h.addressing]
  enterStart _ _ h :=
    { h with phase := rfl, fieldDigits := rfl, frame := fun hinside => absurd rfl hinside }
  reset _ _ h :=
    { h with
      phase := rfl, fieldDigits := rfl, pending := rfl, checksum := rfl, addressLow := rfl
      frame := fun hinside => absurd rfl hinside
      addressing := rfl, position := rfl, lastError := rfl }
  advanceByte _ _ h := { h with position := congrArg Position.advanceByte h.position }
  register _ _ _ h := { h with consumer := rfl }
  setError _ _ _ h := { h with lastError := rfl }

/-- What can be read off a decoder. -/
structure View (κ : Type) where
  capacity : Nat
  supported : List Int
  consumer : Option κ
  phase : Phase
  addressing : Addressing
  address : Nat
  position : Position
  lastError : Option DecodingError

/-- What can be read off a decoder at a time. -/
def view (d : Decoder κ) : View κ where
  capacity := d.capacity
  supported := d.supported
  consumer := d.consumer
  phase := d.phase
  addressing := d.addressing
  address := d.address
  position := d.position
  lastError := d.lastError

/-- The leftovers cannot be read off. -/
theorem SameButLeftovers.view_eq (h : SameButLeftovers d e) : d.view = e.view := by
  rw [view, view, h.capacity, h.supported, h.consumer, h.phase, h.addressing, address, address,
    h.addressing, h.addressLow, h.position, h.lastError]

/-- A decoder that starts over as a new one, which has the same setting. -/
def renew (d : Decoder κ) : Decoder κ :=
  .fresh d.consumer d.capacity d.supported

/-- A reset decoder differs from a new one in its leftovers only. -/
theorem sameButLeftovers_reset (d : Decoder κ) : SameButLeftovers d.reset d.renew :=
  ⟨rfl, rfl, rfl, rfl, rfl, rfl, rfl, rfl, fun hinside => absurd rfl hinside, rfl, rfl, rfl⟩

end Decoder

namespace Run

variable {κ σ : Type}

/-- What came of two runs is the same, as far as it can be told. The state of the consumers can be a
record of their calls, so these are the same, too. -/
structure Alike {ρ : Type} (left right : ρ × Run κ σ) : Prop where
  result : left.1 = right.1
  world : left.2.world = right.2.world
  trace : left.2.trace = right.2.trace
  view : left.2.decoder.view = right.2.decoder.view

/-- Runs in step come to the same, if what can be read off their decoders is the same. -/
theorem InStep.alike {R : Decoder κ → Decoder κ → Prop} (hR : Decoder.Bisimulation R)
    (hview : ∀ d e, R d e → d.view = e.view) {r s : Run κ σ} (h : InStep R Eq True r s)
    (host : Host κ σ) (ops : List (Operation κ)) :
    Alike (r.performAll host ops) (s.performAll host ops) := by
  obtain ⟨hresults, hlast⟩ := h.performAll hR (Host.agree_eq host) ops
  exact ⟨hresults, hlast.world, (hlast.trace trivial).2, hview _ _ hlast.decoder⟩

/-- Goes on with a trace of its own. -/
def resume (r : Run κ σ) : Run κ σ :=
  start r.decoder r.world r.traced

/-- From any state, a reset decoder and a new one with the same setting cannot be told apart: whatever
operations follow and whatever the consumers answer, they give the same results, leave the consumers
in the same state and the trace with the same events, and show the same. Yet a reset clears neither
the record, up to its address, nor the digit kept last. -/
theorem performAll_reset (host : Host κ σ) (r : Run κ σ) (ops : List (Operation κ)) :
    let renewed := { r with decoder := r.decoder.reset }.performAll host ops
    let new := { r with decoder := r.decoder.renew }.performAll host ops
    renewed.1 = new.1 ∧ renewed.2.world = new.2.world ∧ renewed.2.trace = new.2.trace ∧
      renewed.2.decoder.view = new.2.decoder.view ∧
      r.decoder.reset.frame = { r.decoder.frame with addressLow := 0 } ∧
      r.decoder.reset.pairing.high = r.decoder.pairing.high := by
  intro renewed new
  have hstart : InStep Decoder.SameButLeftovers Eq True { r with decoder := r.decoder.reset }
      { r with decoder := r.decoder.renew } :=
    ⟨r.decoder.sameButLeftovers_reset, rfl, fun _ => ⟨rfl, rfl⟩⟩
  obtain ⟨hresults, hlast⟩ :=
    hstart.performAll Decoder.bisimulation_sameButLeftovers (Host.agree_eq host) ops
  exact ⟨hresults, hlast.world, (hlast.trace trivial).2, hlast.decoder.view_eq, rfl, rfl⟩

end Run

end IntelHex
