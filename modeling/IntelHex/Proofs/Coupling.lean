import Mathlib.Logic.Basic
import IntelHex.Proofs.Operation

/-!
# Two runs in step

Two decoders that differ in nothing that a byte or an operation brings to light are put in front of
consumers that answer alike. Whatever is done to both, they stay in step: they give the same results,
make the same calls and leave the same trace. The decoders may also differ in something that shows
when a byte is refused for certain causes: then they stay in step until that happens. The induction
over bytes, chunks and operations is made here once, for any relation between the decoders, any
relation between the states of the consumers and any causes that are excused.
-/

namespace IntelHex

/-- A relation between decoders that shows in no position and in no address, and that is kept by
whatever is done to both between two bytes. -/
structure Decoder.Congruent {κ : Type} (R : Decoder κ → Decoder κ → Prop) : Prop where
  position : ∀ d e, R d e → d.position = e.position
  addressOf : ∀ d e low, R d e → d.addressOf low = e.addressOf low
  enterStart : ∀ d e, R d e → R (d.enter .start) (e.enter .start)
  reset : ∀ d e, R d e → R d.reset e.reset
  advanceByte : ∀ d e, R d e →
    R { d with position := d.position.advanceByte } { e with position := e.position.advanceByte }
  register : ∀ d e consumer, R d e → R (d.register consumer) (e.register consumer)
  setError : ∀ d e error, R d e → R { d with lastError := error } { e with lastError := error }

/-- A relation between decoders that no byte and no operation brings to light. -/
structure Decoder.Bisimulation {κ : Type} (R : Decoder κ → Decoder κ → Prop) : Prop
    extends Decoder.Congruent R where
  advance : ∀ d e b, R d e → (d.advance b).2 = (e.advance b).2 ∧ R (d.advance b).1 (e.advance b).1

/-- A relation between decoders that no byte and no operation brings to light, as long as the first one
refuses no byte for one of the excused causes. -/
structure Decoder.BisimulationUnless {κ : Type} (excused : Cause → Prop)
    (R : Decoder κ → Decoder κ → Prop) : Prop extends Decoder.Congruent R where
  advance : ∀ d e b, R d e → (∀ cause, excused cause → (d.advance b).2 ≠ .refuse cause) →
    (d.advance b).2 = (e.advance b).2 ∧ R (d.advance b).1 (e.advance b).1

/-- A relation that is never brought to light needs no excuse. -/
theorem Decoder.Bisimulation.unless {κ : Type} {R : Decoder κ → Decoder κ → Prop}
    (hR : Bisimulation R) (excused : Cause → Prop) : BisimulationUnless excused R :=
  ⟨hR.toCongruent, fun d e b h _ => hR.advance d e b h⟩

/-- Decoders that are the same cannot be told apart. -/
theorem Decoder.bisimulation_eq {κ : Type} : Bisimulation (@Eq (Decoder κ)) where
  advance _ _ _ h := h ▸ ⟨rfl, rfl⟩
  position _ _ h := h ▸ rfl
  addressOf _ _ _ h := h ▸ rfl
  enterStart _ _ h := h ▸ rfl
  reset _ _ h := h ▸ rfl
  advanceByte _ _ h := h ▸ rfl
  register _ _ _ h := h ▸ rfl
  setError _ _ _ h := h ▸ rfl

/-- Consumers that answer alike as long as their states are related, and keep them so. -/
def Host.Agree {κ σ τ : Type} (I : σ → τ → Prop) (host : Host κ σ) (other : Host κ τ) : Prop :=
  ∀ consumer block v w, I v w → (host consumer block v).1 = (other consumer block w).1 ∧
    I (host consumer block v).2 (other consumer block w).2

/-- The same consumers on the same state answer alike. -/
theorem Host.agree_eq {κ σ : Type} (host : Host κ σ) : Host.Agree Eq host host := by
  rintro consumer block v _ rfl
  exact ⟨rfl, rfl⟩

namespace Run

variable {κ σ τ : Type}

/-- Two runs whose decoders and consumers are related; their traces are the same, if they are
compared at all. -/
structure InStep (R : Decoder κ → Decoder κ → Prop) (I : σ → τ → Prop) (compared : Prop)
    (r : Run κ σ) (s : Run κ τ) : Prop where
  decoder : R r.decoder s.decoder
  world : I r.world s.world
  trace : compared → r.traced = s.traced ∧ r.trace = s.trace

variable {R : Decoder κ → Decoder κ → Prop} {I : σ → τ → Prop} {compared : Prop}
  {r : Run κ σ} {s : Run κ τ}

namespace InStep

/-- Decoders are replaced by decoders that are related. -/
theorem replace (h : InStep R I compared r s) {d e : Decoder κ} (hd : R d e) :
    InStep R I compared { r with decoder := d } { s with decoder := e } :=
  ⟨hd, h.world, h.trace⟩

/-- The same event is traced by both or by none. -/
theorem note (h : InStep R I compared r s) (event : Event) :
    InStep R I compared (r.note event) (s.note event) := by
  refine ⟨?_, ?_, fun hcompared => ?_⟩
  · simpa only [decoder_note] using h.decoder
  · simpa only [world_note] using h.world
  · obtain ⟨htraced, htrace⟩ := h.trace hcompared
    unfold Run.note
    by_cases hevents : r.traced = true
    · rw [if_pos hevents, if_pos (htraced.symm.trans hevents)]
      exact ⟨htraced, congrArg (· ++ [event]) htrace⟩
    · rw [if_neg hevents, if_neg fun hother => hevents (htraced.trans hother)]
      exact ⟨htraced, htrace⟩

section Unless

variable {excused : Cause → Prop} (hR : Decoder.BisimulationUnless excused R) {host : Host κ σ}
  {other : Host κ τ} (hagree : Host.Agree I host other)
include hR

/-- The same error is remembered. -/
theorem setError (h : InStep R I compared r s) (error : Option DecodingError) :
    InStep R I compared (r.setError error) (s.setError error) :=
  h.replace (hR.setError _ _ error h.decoder)

/-- The same byte is counted. -/
theorem countByte (h : InStep R I compared r s) :
    InStep R I compared r.countByte s.countByte :=
  h.replace (hR.advanceByte _ _ h.decoder)

/-- The same failures have the same place. -/
theorem failure_eq (h : InStep R I compared r s) (cause : Cause) :
    r.decoder.failure cause = s.decoder.failure cause := by
  rw [Decoder.failure, Decoder.failure, hR.position _ _ h.decoder]

include hagree

/-- A data block is answered alike. -/
theorem deliver (h : InStep R I compared r s) (consumer : κ) (block : Delivery) :
    (r.deliver host consumer block).1 = (s.deliver other consumer block).1 ∧
      InStep R I compared (r.deliver host consumer block).2
        (s.deliver other consumer block).2 := by
  obtain ⟨hreply, hworld⟩ := hagree consumer block r.world s.world h.world
  rw [deliver_eq, deliver_eq, ← hreply]
  generalize (host consumer block r.world).1 = reply
  have hafter : InStep R I compared (r.afterReply reply (host consumer block r.world).2)
      (s.afterReply reply (other consumer block s.world).2) := by
    refine ⟨?_, hworld, h.trace⟩
    unfold afterReply
    split
    · exact hR.reset _ _ h.decoder
    · exact h.decoder
  cases reply.verdict with
  | accept => exact ⟨rfl, hafter.replace (hR.enterStart _ _ hafter.decoder)⟩
  | reject =>
    have hfailure := hafter.failure_eq hR (.rejected block.address.toNat)
    exact ⟨congrArg (fun failure => some (Stop.failed (.own failure))) hfailure, hafter⟩
  | fail error => exact ⟨rfl, hafter⟩
  | raise message => exact ⟨rfl, hafter⟩

/-- A byte is read alike. -/
theorem step (h : InStep R I compared r s) (b : UInt8)
    (hfree : ¬Stop.RefusedFor excused (r.step host b).1) :
    (r.step host b).1 = (s.step other b).1 ∧
      InStep R I compared (r.step host b).2 (s.step other b).2 := by
  have hexcuse (cause : Cause) (hcause : excused cause) :
      (r.decoder.advance b).2 ≠ .refuse cause := by
    intro hrefuse
    rw [step_eq, hrefuse] at hfree
    exact hfree ⟨_, rfl, hcause⟩
  obtain ⟨haction, hdecoder⟩ := hR.advance _ _ b h.decoder hexcuse
  rw [step_eq, step_eq, ← haction]
  have hmoved := h.replace hdecoder
  cases (r.decoder.advance b).2 with
  | proceed => exact ⟨rfl, hmoved⟩
  | refuse cause =>
    have hfailure := hmoved.failure_eq hR cause
    exact ⟨congrArg (fun failure => some (Stop.failed (.own failure))) hfailure, hmoved⟩
  | overrun => exact ⟨rfl, hmoved⟩
  | finish event => exact ⟨rfl, hmoved.note event⟩
  | deliver event consumer block => exact (hmoved.note event).deliver hR hagree consumer block

/-- Bytes are read alike. -/
theorem readBytes (h : InStep R I compared r s) (data : List UInt8)
    (hfree : ¬Stop.RefusedFor excused (Run.readBytes host data r).1) :
    (Run.readBytes host data r).1 = (Run.readBytes other data s).1 ∧
      InStep R I compared (Run.readBytes host data r).2 (Run.readBytes other data s).2 := by
  induction data generalizing r s with
  | nil => exact ⟨rfl, h⟩
  | cons b data ih =>
    by_cases hb : b = terminator
    · subst hb
      rw [readBytes_terminator, readBytes_terminator]
      exact ⟨rfl, h⟩
    · have hnext := h.step hR hagree b
      rcases hleft : r.step host b with ⟨stop, next⟩
      rcases hright : s.step other b with ⟨_, following⟩
      rw [hleft, hright] at hnext
      cases stop with
      | none =>
        obtain ⟨rfl, hnext⟩ := hnext nofun
        rw [readBytes_cons_of_none hb hleft] at hfree ⊢
        rw [readBytes_cons_of_none hb hright]
        exact ih (hnext.countByte hR) hfree
      | some stop =>
        rw [readBytes_cons_of_some hb hleft] at hfree ⊢
        obtain ⟨rfl, hnext⟩ := hnext hfree
        rw [readBytes_cons_of_some hb hright]
        exact ⟨rfl, hnext⟩

/-- Data are taken in alike. -/
theorem feed_unless (h : InStep R I compared r s) (data : List UInt8)
    (hfree : ¬Intake.RefusedFor excused (r.feed host data).1) :
    (r.feed host data).1 = (s.feed other data).1 ∧
      InStep R I compared (r.feed host data).2 (s.feed other data).2 := by
  rw [feed_eq_conclude, refusedFor_conclude_iff] at hfree
  obtain ⟨hstop, hnext⟩ := (h.setError hR none).readBytes hR hagree data hfree
  rw [feed_eq_conclude, feed_eq_conclude]
  rcases hleft : Run.readBytes host data (r.setError none) with ⟨stop, next⟩
  rcases hright : Run.readBytes other data (s.setError none) with ⟨_, following⟩
  rw [hleft, hright] at hstop hnext
  subst hstop
  match stop with
  | none => exact ⟨rfl, hnext⟩
  | some (.failed error) => exact ⟨rfl, (hnext.setError hR (some error)).note _⟩
  | some (.raised message) => exact ⟨rfl, hnext⟩
  | some .overrun => exact ⟨rfl, hnext⟩

/-- A number of leading bytes is taken in alike. -/
theorem feedCounted (h : InStep R I compared r s) (data : List UInt8) (count : Option Int)
    (hfree : ¬Intake.RefusedFor excused (r.feedCounted host data count).1) :
    (r.feedCounted host data count).1 = (s.feedCounted other data count).1 ∧
      InStep R I compared (r.feedCounted host data count).2
        (s.feedCounted other data count).2 := by
  cases hbytes : selected? data count with
  | none =>
    rw [feedCounted_of_unselected hbytes, feedCounted_of_unselected hbytes]
    exact ⟨rfl, h⟩
  | some bytes =>
    rw [feedCounted_of_selected hbytes] at hfree ⊢
    rw [feedCounted_of_selected hbytes]
    exact h.feed_unless hR hagree bytes hfree

/-- Chunk after chunk is taken in alike, and the same is left of the source. -/
theorem drain (h : InStep R I compared r s) (size : Nat) (source : Source)
    (hfree : ¬Intake.RefusedFor excused (r.drain host size source).1) :
    (r.drain host size source).1 = (s.drain other size source).1 ∧
      InStep R I compared (r.drain host size source).2.1 (s.drain other size source).2.1 ∧
      (r.drain host size source).2.2 = (s.drain other size source).2.2 := by
  induction hleft : source.left using Nat.strongRecOn generalizing source r s with
  | ind left ih =>
    rw [Run.drain] at hfree ⊢
    rw [Run.drain]
    by_cases hempty : (source.read size).1 = []
    · rw [dif_pos hempty, dif_pos hempty]
      exact ⟨rfl, h, rfl⟩
    · rw [dif_neg hempty] at hfree ⊢
      rw [dif_neg hempty]
      have hfed := h.feed_unless hR hagree (source.read size).1
      rcases hfirst : r.feed host (source.read size).1 with ⟨outcome, next⟩
      rcases hsecond : s.feed other (source.read size).1 with ⟨_, following⟩
      rw [hfirst, hsecond] at hfed
      rw [hfirst] at hfree
      match outcome with
      | .ok .accepted =>
        obtain ⟨rfl, hnext⟩ := hfed nofun
        by_cases hend : terminator ∈ (source.read size).1
        · simp only [if_pos hend]
          exact ⟨trivial, hnext, trivial⟩
        · simp only [if_neg hend] at hfree ⊢
          exact ih _ (hleft ▸ Source.left_read_lt hempty) hnext _ hfree rfl
      | .ok (.refused error) =>
        obtain ⟨rfl, hnext⟩ := hfed hfree
        exact ⟨rfl, hnext, rfl⟩
      | .error abort =>
        obtain ⟨rfl, hnext⟩ := hfed hfree
        exact ⟨rfl, hnext, rfl⟩

/-- A source is taken in alike, and the same is left of it. -/
theorem feedSource (h : InStep R I compared r s) (size : Int) (source : Source)
    (hfree : ¬Intake.RefusedFor excused (r.feedSource host size source).1) :
    (r.feedSource host size source).1 = (s.feedSource other size source).1 ∧
      InStep R I compared (r.feedSource host size source).2.1
        (s.feedSource other size source).2.1 ∧
      (r.feedSource host size source).2.2 = (s.feedSource other size source).2.2 := by
  unfold Run.feedSource at hfree ⊢
  split
  · exact ⟨rfl, h, rfl⟩
  · next hsize =>
    rw [if_neg hsize] at hfree
    split
    · exact ⟨rfl, h, rfl⟩
    · next hread =>
      rw [hread] at hfree
      exact h.drain hR hagree _ source hfree

/-- An operation gives the same result. -/
theorem perform (h : InStep R I compared r s) (op : Operation κ)
    (hfree : ¬(r.perform host op).1.RefusedFor excused) :
    (r.perform host op).1 = (s.perform other op).1 ∧
      InStep R I compared (r.perform host op).2 (s.perform other op).2 := by
  cases op with
  | feed data count =>
    obtain ⟨houtcome, hnext⟩ := h.feedCounted hR hagree data count hfree
    exact ⟨congrArg Operation.Result.fed houtcome, hnext⟩
  | stream size source =>
    obtain ⟨houtcome, hnext, hleft⟩ := h.feedSource hR hagree size source hfree
    exact ⟨congrArg₂ Operation.Result.streamed houtcome hleft, hnext⟩
  | reset => exact ⟨rfl, h.replace (hR.reset _ _ h.decoder)⟩
  | register consumer => exact ⟨rfl, h.replace (hR.register _ _ consumer h.decoder)⟩
  | address low => exact ⟨congrArg Operation.Result.address (hR.addressOf _ _ low h.decoder), h⟩

/-- Operations in a row give the same results. -/
theorem performAll_unless (h : InStep R I compared r s) (ops : List (Operation κ))
    (hfree : ∀ result ∈ (r.performAll host ops).1, ¬result.RefusedFor excused) :
    (r.performAll host ops).1 = (s.performAll other ops).1 ∧
      InStep R I compared (r.performAll host ops).2 (s.performAll other ops).2 := by
  induction ops generalizing r s with
  | nil => exact ⟨rfl, h⟩
  | cons op rest ih =>
    obtain ⟨hfirst, hrest⟩ := List.forall_mem_cons.1 hfree
    obtain ⟨hresult, hnext⟩ := h.perform hR hagree op hfirst
    obtain ⟨hresults, hlast⟩ := ih hnext hrest
    exact ⟨congrArg₂ List.cons hresult hresults, hlast⟩

end Unless

variable {host : Host κ σ} {other : Host κ τ}

/-- Data are taken in alike by decoders that cannot be told apart. -/
theorem feed (hR : Decoder.Bisimulation R) (hagree : Host.Agree I host other)
    (h : InStep R I compared r s) (data : List UInt8) :
    (r.feed host data).1 = (s.feed other data).1 ∧
      InStep R I compared (r.feed host data).2 (s.feed other data).2 :=
  h.feed_unless (hR.unless fun _ => False) hagree data fun ⟨_, _, hfalse⟩ => hfalse

/-- Operations in a row give the same results on decoders that cannot be told apart. -/
theorem performAll (hR : Decoder.Bisimulation R) (hagree : Host.Agree I host other)
    (h : InStep R I compared r s) (ops : List (Operation κ)) :
    (r.performAll host ops).1 = (s.performAll other ops).1 ∧
      InStep R I compared (r.performAll host ops).2 (s.performAll other ops).2 :=
  h.performAll_unless (hR.unless fun _ => False) hagree ops fun result _ =>
    result.not_refusedFor_false

end InStep

end Run

end IntelHex
