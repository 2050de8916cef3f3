import IntelHex.Source
import IntelHex.Proofs.Feeding

/-!
# Sequences of operations

A decoder at work is fed, reset, given another consumer and asked for addresses, in any order. What
is kept by every byte and by every such operation holds after any sequence of them, whatever the
consumers do meanwhile; this induction is made here once, for any property of the decoder.
-/

namespace IntelHex

/-- An operation on a decoder at work. -/
inductive Operation (κ : Type)
  /-- Feeds the given number of leading bytes, by default all of them. -/
  | feed (data : List UInt8) (count : Option Int)
  /-- Feeds a source in chunks of the given size. -/
  | stream (size : Int) (source : Source)
  /-- Starts over. -/
  | reset
  /-- Registers a consumer, or none. -/
  | register (consumer : Option κ)
  /-- Computes an absolute address, by default that of the record being read. -/
  | address (low : Option Int)

/-- What an operation gives back. -/
inductive Operation.Result
  /-- Whether the bytes were taken in. -/
  | fed (outcome : Except Abort Intake)
  /-- Whether the source was taken in, and what is left of it. -/
  | streamed (outcome : Except Abort Intake) (left : Source)
  /-- It is done. -/
  | done
  /-- An address. -/
  | address (value : Nat)

/-- The run was stopped by a byte that was refused for one of some causes. -/
def Stop.RefusedFor (causes : Cause → Prop) (stop : Option Stop) : Prop :=
  ∃ failure, stop = some (.failed (.own failure)) ∧ causes failure.cause

/-- A byte was refused for one of some causes. -/
def Intake.RefusedFor (causes : Cause → Prop) (outcome : Except Abort Intake) : Prop :=
  ∃ failure, outcome = .ok (.refused (.own failure)) ∧ causes failure.cause

/-- An operation was refused a byte for one of some causes. -/
def Operation.Result.RefusedFor (causes : Cause → Prop) : Operation.Result → Prop
  | .fed outcome => Intake.RefusedFor causes outcome
  | .streamed outcome _ => Intake.RefusedFor causes outcome
  | .done => False
  | .address _ => False

/-- Nothing is refused if there is no cause. -/
theorem Operation.Result.not_refusedFor_false (result : Operation.Result) :
    ¬result.RefusedFor fun _ => False := by
  cases result <;> simp [RefusedFor, Intake.RefusedFor]

namespace Run

variable {κ σ : Type}

/-- The verdict of feeding tells what stopped the run. -/
theorem refusedFor_conclude_iff {causes : Cause → Prop} (read : Option Stop × Run κ σ) :
    Intake.RefusedFor causes (conclude read).1 ↔ Stop.RefusedFor causes read.1 := by
  rcases read with ⟨_ | stop, r⟩
  · simp [conclude, Intake.RefusedFor, Stop.RefusedFor]
  · cases stop <;> simp [conclude, Intake.RefusedFor, Stop.RefusedFor]

/-- Performs one operation. -/
def perform (host : Host κ σ) (op : Operation κ) (r : Run κ σ) : Operation.Result × Run κ σ :=
  match op with
  | .feed data count =>
    let (outcome, next) := r.feedCounted host data count
    (.fed outcome, next)
  | .stream size source =>
    let (outcome, next, left) := r.feedSource host size source
    (.streamed outcome left, next)
  | .reset => (.done, { r with decoder := r.decoder.reset })
  | .register consumer => (.done, { r with decoder := r.decoder.register consumer })
  | .address low => (.address (r.decoder.addressOf low), r)

/-- Performs operations one after the other. -/
def performAll (host : Host κ σ) : List (Operation κ) → Run κ σ → List Operation.Result × Run κ σ
  | [], r => ([], r)
  | op :: rest, r =>
    let (result, next) := r.perform host op
    let (results, last) := next.performAll host rest
    (result :: results, last)

end Run

/-- A property of decoders that no byte and no operation destroys. -/
structure Decoder.Stable {κ : Type} (P : Decoder κ → Prop) : Prop extends Decoder.Kept P where
  register : ∀ d consumer, P d → P (d.register consumer)
  setError : ∀ d error, P d → P { d with lastError := error }

namespace Decoder

variable {κ : Type} {P Q : Decoder κ → Prop}

/-- Two stable properties are stable together. -/
theorem Stable.and (hP : Stable P) (hQ : Stable Q) : Stable fun d => P d ∧ Q d where
  advance d b h := ⟨hP.advance d b h.1, hQ.advance d b h.2⟩
  enterStart d h := ⟨hP.enterStart d h.1, hQ.enterStart d h.2⟩
  reset d h := ⟨hP.reset d h.1, hQ.reset d h.2⟩
  advanceByte d h := ⟨hP.advanceByte d h.1, hQ.advanceByte d h.2⟩
  register d consumer h := ⟨hP.register d consumer h.1, hQ.register d consumer h.2⟩
  setError d failure h := ⟨hP.setError d failure h.1, hQ.setError d failure h.2⟩

/-- The size of the buffer is never changed. -/
theorem stable_capacity (fits : Nat → Prop) : Stable fun d : Decoder κ => fits d.capacity where
  advance d b h := (moves_advance d b).frame.1 ▸ h
  enterStart _ h := h
  reset _ h := h
  advanceByte _ h := h
  register _ _ h := h
  setError _ _ h := h

end Decoder

namespace Run

variable {κ σ : Type} {P : Decoder κ → Prop}

/-- The verdict of feeding keeps a stable property. -/
theorem stable_conclude (hP : Decoder.Stable P) {read : Option Stop × Run κ σ}
    (h : P read.2.decoder) : P (conclude read).2.decoder := by
  rcases read with ⟨_ | stop, r⟩
  · exact h
  · cases stop with
    | failed failure =>
      rw [conclude, decoder_note]
      exact hP.setError _ _ h
    | raised message => exact h
    | overrun => exact h

/-- Feeding keeps a stable property. -/
theorem stable_feed (hP : Decoder.Stable P) (host : Host κ σ) (data : List UInt8) {r : Run κ σ}
    (h : P r.decoder) : P (r.feed host data).2.decoder := by
  rw [feed_eq_conclude]
  exact stable_conclude hP
    (kept_readBytes hP.toKept host data (r := r.setError none) (hP.setError _ _ h))

section Lasting

variable {Q : Run κ σ → Prop} {host : Host κ σ}
  (hfeed : ∀ (r : Run κ σ) data, Q r → Q (r.feed host data).2)
include hfeed

/-- What every feed keeps lasts while a number of leading bytes is fed. -/
theorem feedCounted_lasts (data : List UInt8) (count : Option Int) {r : Run κ σ} (h : Q r) :
    Q (r.feedCounted host data count).2 := by
  cases hbytes : selected? data count with
  | none => rwa [feedCounted_of_unselected hbytes]
  | some bytes =>
    rw [feedCounted_of_selected hbytes]
    exact hfeed r bytes h

/-- What every feed keeps lasts while a source is fed chunk by chunk. -/
theorem drain_lasts (size : Nat) (source : Source) {r : Run κ σ} (h : Q r) :
    Q (r.drain host size source).2.1 := by
  fun_induction drain host size source r with
  | case1 source r hempty => exact h
  | case2 source r hchunk next heq hmem =>
    have hfed := hfeed r (source.read size).1 h
    rwa [heq] at hfed
  | case3 source r hchunk next heq hmem ih =>
    have hfed := hfeed r (source.read size).1 h
    rw [heq] at hfed
    exact ih hfed
  | case4 source r hchunk stopped next hstopped heq =>
    have hfed := hfeed r (source.read size).1 h
    rwa [heq] at hfed

/-- What every feed keeps lasts while a whole source is fed. -/
theorem feedSource_lasts (size : Int) (source : Source) {r : Run κ σ} (h : Q r) :
    Q (r.feedSource host size source).2.1 := by
  unfold feedSource
  split
  · exact h
  · split
    · exact h
    · exact drain_lasts hfeed _ source h

/-- What every feed and every registration keeps lasts through an operation, if it lasts through a
reset. -/
theorem perform_lasts
    (hregister : ∀ (r : Run κ σ) consumer, Q r → Q { r with decoder := r.decoder.register consumer })
    {op : Operation κ} {r : Run κ σ} (hreset : op = .reset → Q { r with decoder := r.decoder.reset })
    (h : Q r) : Q (r.perform host op).2 := by
  cases op with
  | feed data count => exact feedCounted_lasts hfeed data count h
  | stream size source => exact feedSource_lasts hfeed size source h
  | reset => exact hreset rfl
  | register consumer => exact hregister r consumer h
  | address low => exact h

omit hfeed in
/-- What lasts through each of some operations lasts through all of them. -/
theorem performAll_lasts {ops : List (Operation κ)}
    (hops : ∀ op ∈ ops, ∀ r : Run κ σ, Q r → Q (r.perform host op).2) {r : Run κ σ} (h : Q r) :
    Q (r.performAll host ops).2 := by
  induction ops generalizing r with
  | nil => exact h
  | cons op rest ih =>
    obtain ⟨hop, hrest⟩ := List.forall_mem_cons.1 hops
    exact ih hrest (hop r h)

end Lasting

/-- An operation keeps a stable property. -/
theorem stable_perform (hP : Decoder.Stable P) (host : Host κ σ) (op : Operation κ) {r : Run κ σ}
    (h : P r.decoder) : P (r.perform host op).2.decoder :=
  perform_lasts (Q := fun r => P r.decoder) (fun _ data => stable_feed hP host data)
    (fun _ consumer => hP.register _ consumer) (fun _ => hP.reset _ h) h

/-- A stable property holds after any sequence of operations. -/
theorem stable_performAll (hP : Decoder.Stable P) (host : Host κ σ) (ops : List (Operation κ))
    {r : Run κ σ} (h : P r.decoder) : P (r.performAll host ops).2.decoder :=
  performAll_lasts (Q := fun r => P r.decoder) (fun op _ _ => stable_perform hP host op) h

section Causes

variable {causes : Cause → Prop} {host : Host κ σ} (hP : Decoder.Stable P)
  (hstep : ∀ (before : Run κ σ) b, P before.decoder → ¬Stop.RefusedFor causes (before.step host b).1)
include hP hstep

/-- A feed is refused for no cause that a step is never refused for. -/
theorem not_refusedFor_feed (data : List UInt8) {r : Run κ σ} (h : P r.decoder) :
    ¬Intake.RefusedFor causes (r.feed host data).1 := by
  rw [feed_eq_conclude, refusedFor_conclude_iff]
  rintro ⟨failure, hstop, hcause⟩
  obtain ⟨before, b, hbefore, hrefused⟩ := exists_step_of_readBytes hP.toKept
    (r := r.setError none) (hP.setError _ _ h) hstop
  exact hstep before b hbefore ⟨failure, hrefused, hcause⟩

/-- A source is refused for no cause that a step is never refused for. -/
theorem not_refusedFor_drain (size : Nat) (source : Source) {r : Run κ σ} (h : P r.decoder) :
    ¬Intake.RefusedFor causes (r.drain host size source).1 := by
  fun_induction drain host size source r with
  | case1 source r hempty => exact nofun
  | case2 source r hchunk next heq hmem => exact nofun
  | case3 source r hchunk next heq hmem ih =>
    have hfed := stable_feed hP host (source.read size).1 h
    rw [heq] at hfed
    exact ih hfed
  | case4 source r hchunk stopped next hstopped heq =>
    have hfree := not_refusedFor_feed hP hstep (source.read size).1 h
    rwa [heq] at hfree

/-- An operation is refused for no cause that a step is never refused for. -/
theorem not_refusedFor_perform (op : Operation κ) {r : Run κ σ} (h : P r.decoder) :
    ¬(r.perform host op).1.RefusedFor causes := by
  cases op with
  | feed data count =>
    change ¬Intake.RefusedFor causes (r.feedCounted host data count).1
    cases hbytes : selected? data count with
    | none =>
      rw [feedCounted_of_unselected hbytes]
      exact nofun
    | some bytes =>
      rw [feedCounted_of_selected hbytes]
      exact not_refusedFor_feed hP hstep bytes h
  | stream size source =>
    change ¬Intake.RefusedFor causes (r.feedSource host size source).1
    unfold feedSource
    split
    · exact nofun
    · split
      · exact nofun
      · exact not_refusedFor_drain hP hstep _ source h
  | reset | register | address => exact id

/-- Operations in a row are refused for no cause that a step is never refused for. -/
theorem not_refusedFor_performAll (ops : List (Operation κ)) {r : Run κ σ} (h : P r.decoder) :
    ∀ result ∈ (r.performAll host ops).1, ¬result.RefusedFor causes := by
  induction ops generalizing r with
  | nil => exact List.forall_mem_nil _
  | cons op rest ih =>
    exact List.forall_mem_cons.2
      ⟨not_refusedFor_perform hP hstep op h, ih (stable_perform hP host op h)⟩

end Causes

end Run

end IntelHex
