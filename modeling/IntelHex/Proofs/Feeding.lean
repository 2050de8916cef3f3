import IntelHex.Run
import IntelHex.Proofs.Advance

/-!
# Feeding byte by byte

What a run does on a list of bytes, as equations: a step is a move of the decoder followed by its
action, two pieces of input in a row are read like one, and feeding is reading followed by a verdict.
A property of the decoder that a byte keeps is kept by every list of bytes, and a run that stops
early stops in a step from a decoder with that property.
-/

namespace IntelHex

/-- A property of decoders that reading a byte keeps, whatever a consumer does meanwhile. -/
structure Decoder.Kept {κ : Type} (P : Decoder κ → Prop) : Prop where
  advance : ∀ d b, P d → P (d.advance b).1
  enterStart : ∀ d, P d → P (d.enter .start)
  reset : ∀ d, P d → P d.reset
  advanceByte : ∀ d, P d → P { d with position := d.position.advanceByte }

namespace Run

variable {κ σ : Type} {host : Host κ σ} {P : Decoder κ → Prop}

/-- Tracing an event leaves the decoder alone. -/
@[simp] theorem decoder_note (r : Run κ σ) (event : Event) : (r.note event).decoder = r.decoder := by
  unfold note
  split <;> rfl

/-- Tracing an event leaves the consumers alone. -/
@[simp] theorem world_note (r : Run κ σ) (event : Event) : (r.note event).world = r.world := by
  unfold note
  split <;> rfl

/-- Tracing an event does not change whether events are traced. -/
@[simp] theorem traced_note (r : Run κ σ) (event : Event) : (r.note event).traced = r.traced := by
  unfold note
  split <;> rfl

/-- A step is a move of the decoder followed by the action that it asks for. -/
theorem step_eq (b : UInt8) (r : Run κ σ) :
    r.step host b =
      { r with decoder := (r.decoder.advance b).1 }.act host (r.decoder.advance b).2 := rfl

/-- A delivery asks the consumer and goes on after its reply. -/
theorem deliver_eq (consumer : κ) (block : Delivery) (r : Run κ σ) :
    r.deliver host consumer block =
      (r.afterReply (host consumer block r.world).1 (host consumer block r.world).2).settle block
        (host consumer block r.world).1.verdict := rfl

/-- The run after a byte has been read, before its action. -/
def advanced (b : UInt8) (r : Run κ σ) : Run κ σ :=
  { r with decoder := (r.decoder.advance b).1 }

/-- The run after a consumer has answered to a data block, before its verdict takes effect. -/
def asked (host : Host κ σ) (event : Event) (consumer : κ) (block : Delivery) (r : Run κ σ) :
    Run κ σ :=
  (r.note event).afterReply (host consumer block r.world).1 (host consumer block r.world).2

/-- The cases of a step: by the action of its byte and, if a consumer is asked, by the verdict. -/
inductive Steps (host : Host κ σ) (b : UInt8) (r : Run κ σ) : Option Stop → Run κ σ → Prop
  /-- The byte asks for nothing. -/
  | proceed (haction : (r.decoder.advance b).2 = .proceed) : Steps host b r none (r.advanced b)
  /-- The byte is refused. -/
  | refuse {cause : Cause} (haction : (r.decoder.advance b).2 = .refuse cause) :
    Steps host b r (some (.failed (.own ((r.advanced b).decoder.failure cause)))) (r.advanced b)
  /-- The byte has no place in the payload buffer. -/
  | overrun (haction : (r.decoder.advance b).2 = .overrun) :
    Steps host b r (some .overrun) (r.advanced b)
  /-- The byte completes a record, and there is nothing to deliver. -/
  | finish {event : Event} (haction : (r.decoder.advance b).2 = .finish event) :
    Steps host b r none ((r.advanced b).note event)
  /-- The byte completes a data record, and the consumer takes the block. -/
  | accept {event : Event} {consumer : κ} {block : Delivery}
      (haction : (r.decoder.advance b).2 = .deliver event consumer block)
      (hverdict : (host consumer block r.world).1.verdict = .accept) :
    Steps host b r none { (r.advanced b).asked host event consumer block with
      decoder := ((r.advanced b).asked host event consumer block).decoder.enter .start }
  /-- The byte completes a data record, and the consumer does not take the block. -/
  | reject {event : Event} {consumer : κ} {block : Delivery}
      (haction : (r.decoder.advance b).2 = .deliver event consumer block)
      (hverdict : (host consumer block r.world).1.verdict = .reject) :
    Steps host b r
      (some (.failed (.own (((r.advanced b).asked host event consumer block).decoder.failure
        (.rejected block.address.toNat)))))
      ((r.advanced b).asked host event consumer block)
  /-- The byte completes a data record, and the consumer breaks off with a decoding error. -/
  | fail {event : Event} {consumer : κ} {block : Delivery} {error : ForeignError}
      (haction : (r.decoder.advance b).2 = .deliver event consumer block)
      (hverdict : (host consumer block r.world).1.verdict = .fail error) :
    Steps host b r (some (.failed (.foreign error))) ((r.advanced b).asked host event consumer block)
  /-- The byte completes a data record, and the consumer breaks off with another error. -/
  | raise {event : Event} {consumer : κ} {block : Delivery} {message : String}
      (haction : (r.decoder.advance b).2 = .deliver event consumer block)
      (hverdict : (host consumer block r.world).1.verdict = .raise message) :
    Steps host b r (some (.raised message)) ((r.advanced b).asked host event consumer block)

/-- A step is one of the cases. -/
theorem steps_step (host : Host κ σ) (b : UInt8) (r : Run κ σ) :
    Steps host b r (r.step host b).1 (r.step host b).2 := by
  rw [step_eq]
  cases haction : (r.decoder.advance b).2 with
  | proceed => exact .proceed haction
  | refuse cause => exact .refuse haction
  | overrun => exact .overrun haction
  | finish event => exact .finish haction
  | deliver event consumer block =>
    rw [act, deliver_eq, world_note]
    cases hverdict : (host consumer block r.world).1.verdict with
    | accept => exact .accept haction hverdict
    | reject => exact .reject haction hverdict
    | fail error => exact .fail haction hverdict
    | raise message => exact .raise haction hverdict

/-- A step that has a result is the case with this result. -/
theorem Steps.of_eq {b : UInt8} {r next : Run κ σ} {stop : Option Stop}
    (hstep : r.step host b = (stop, next)) : Steps host b r stop next := by
  have hsteps := steps_step host b r
  rwa [hstep] at hsteps

/-- A terminator ends the input. -/
theorem readBytes_terminator (rest : List UInt8) (r : Run κ σ) :
    readBytes host (terminator :: rest) r = (none, r) := by
  rw [readBytes, if_pos rfl]

/-- After an accepted byte the rest is read. -/
theorem readBytes_cons_of_none {b : UInt8} {r next : Run κ σ} (hb : b ≠ terminator)
    (hstep : r.step host b = (none, next)) (rest : List UInt8) :
    readBytes host (b :: rest) r = readBytes host rest next.countByte := by
  rw [readBytes, if_neg hb, hstep]

/-- A byte that stops the run is the last one to be read. -/
theorem readBytes_cons_of_some {b : UInt8} {r next : Run κ σ} {stop : Stop} (hb : b ≠ terminator)
    (hstep : r.step host b = (some stop, next)) (rest : List UInt8) :
    readBytes host (b :: rest) r = (some stop, next) := by
  rw [readBytes, if_neg hb, hstep]

/-- Input in two pieces is read like the two in one, unless it ends within the first. -/
theorem readBytes_append (data rest : List UInt8) (r : Run κ σ) :
    readBytes host (data ++ rest) r =
      match readBytes host data r with
      | (none, next) => if terminator ∈ data then (none, next) else readBytes host rest next
      | stopped => stopped := by
  induction data generalizing r with
  | nil => simp [readBytes]
  | cons b data ih =>
    by_cases hb : b = terminator
    · subst hb
      simp [readBytes_terminator]
    · rcases hstep : r.step host b with ⟨stop, next⟩
      rw [List.cons_append]
      cases stop with
      | none =>
        rw [readBytes_cons_of_none hb hstep, readBytes_cons_of_none hb hstep, ih]
        simp only [List.mem_cons, Ne.symm hb, false_or]
      | some stop => rw [readBytes_cons_of_some hb hstep, readBytes_cons_of_some hb hstep]

/-- Nothing beyond the first terminator is read. -/
theorem readBytes_takeWhile (data : List UInt8) (r : Run κ σ) :
    readBytes host (data.takeWhile (· ≠ terminator)) r = readBytes host data r := by
  induction data generalizing r with
  | nil => rfl
  | cons b data ih =>
    by_cases hb : b = terminator
    · subst hb
      simp [readBytes]
    · rw [List.takeWhile_cons_of_pos (by simpa using hb)]
      rcases hstep : r.step host b with ⟨stop, next⟩
      cases stop with
      | none => rw [readBytes_cons_of_none hb hstep, readBytes_cons_of_none hb hstep, ih]
      | some stop => rw [readBytes_cons_of_some hb hstep, readBytes_cons_of_some hb hstep]

/-- Feeding is reading, after the last error has been forgotten, followed by the verdict. -/
theorem feed_eq_conclude (data : List UInt8) (r : Run κ σ) :
    r.feed host data = conclude (readBytes host data (r.setError none)) := rfl

/-- To read a range of indices is to read the bytes that stand there. -/
theorem readRange_eq (host : Host κ σ) (data : Array UInt8) {left index : Nat}
    (hinside : index + left ≤ data.size) (r : Run κ σ) :
    readRange host data left index hinside r =
      readBytes host ((data.toList.drop index).take left) r := by
  induction left generalizing index r with
  | zero => rfl
  | succ left ih =>
    have hindex : index < data.toList.length := by
      rw [Array.length_toList]
      omega
    rw [List.drop_eq_getElem_cons hindex, List.take_succ_cons, readRange, readBytes,
      Array.getElem_toList]
    simp only [ih]

/-- The leading bytes that a count selects, if it is valid; without one they are all bytes. -/
def selected? (data : List UInt8) : Option Int → Option (List UInt8)
  | none => some data
  | some count => if 0 ≤ count ∧ count ≤ data.length then some (data.take count.toNat) else none

/-- A valid count selects as many leading bytes. -/
theorem feedCounted_of_valid {data : List UInt8} {count : Int}
    (h : 0 ≤ count ∧ count ≤ data.length) (r : Run κ σ) :
    r.feedCounted host data (some count) = r.feed host (data.take count.toNat) := by
  rw [feedCounted]
  simp only [Option.getD_some, List.size_toArray, dif_pos h, readRange_eq, List.drop_zero]
  rfl

/-- Any other count is refused, and nothing is done. -/
theorem feedCounted_of_invalid {data : List UInt8} {count : Int}
    (h : ¬(0 ≤ count ∧ count ≤ data.length)) (r : Run κ σ) :
    r.feedCounted host data (some count) = (.error .countOverflow, r) := by
  rw [feedCounted]
  simp only [Option.getD_some, List.size_toArray, dif_neg h]

/-- Without a count all bytes are fed. -/
theorem feedCounted_none (data : List UInt8) (r : Run κ σ) :
    r.feedCounted host data none = r.feed host data := by
  have hvalid : 0 ≤ (data.length : Int) ∧ (data.length : Int) ≤ data.length :=
    ⟨Int.natCast_nonneg _, Int.le_refl _⟩
  calc
    r.feedCounted host data none = r.feedCounted host data (some data.length) := rfl
    _ = r.feed host (data.take (data.length : Int).toNat) := feedCounted_of_valid hvalid r
    _ = r.feed host data := by rw [Int.toNat_natCast, List.take_length]

/-- The bytes that are selected are fed. -/
theorem feedCounted_of_selected {data bytes : List UInt8} {count : Option Int}
    (h : selected? data count = some bytes) (r : Run κ σ) :
    r.feedCounted host data count = r.feed host bytes := by
  cases count with
  | none =>
    cases h
    exact feedCounted_none data r
  | some count =>
    rw [selected?] at h
    split at h
    · next hcount =>
      cases h
      exact feedCounted_of_valid hcount r
    · cases h

/-- If none are selected, nothing is done. -/
theorem feedCounted_of_unselected {data : List UInt8} {count : Option Int}
    (h : selected? data count = none) (r : Run κ σ) :
    r.feedCounted host data count = (.error .countOverflow, r) := by
  cases count with
  | none => cases h
  | some count =>
    rw [selected?] at h
    split at h
    · cases h
    · next hcount => exact feedCounted_of_invalid hcount r

/-- A delivery keeps a property that a byte keeps, whatever the consumer answers. -/
theorem kept_deliver (hP : Decoder.Kept P) (host : Host κ σ) (consumer : κ) (block : Delivery)
    {r : Run κ σ} (h : P r.decoder) : P (r.deliver host consumer block).2.decoder := by
  rw [deliver_eq]
  generalize host consumer block r.world = answer
  have hreply : P (r.afterReply answer.1 answer.2).decoder := by
    unfold afterReply
    by_cases hrestart : answer.1.restart = true
    · simpa only [if_pos hrestart] using hP.reset _ h
    · simpa only [if_neg hrestart] using h
  cases hverdict : answer.1.verdict with
  | accept => exact hP.enterStart _ hreply
  | reject => exact hreply
  | fail error => exact hreply
  | raise message => exact hreply

/-- A step keeps a property that a byte keeps. -/
theorem kept_step (hP : Decoder.Kept P) (host : Host κ σ) (b : UInt8) {r : Run κ σ}
    (h : P r.decoder) : P (r.step host b).2.decoder := by
  have hadvance : P (r.decoder.advance b).1 := hP.advance _ b h
  rw [step_eq]
  cases (r.decoder.advance b).2 with
  | proceed => exact hadvance
  | refuse cause => exact hadvance
  | overrun => exact hadvance
  | finish event => simpa only [act, decoder_note] using hadvance
  | deliver event consumer block =>
    exact kept_deliver hP host consumer block (by simpa only [decoder_note] using hadvance)

/-- Reading keeps a property that a byte keeps. -/
theorem kept_readBytes (hP : Decoder.Kept P) (host : Host κ σ) (data : List UInt8)
    {r : Run κ σ} (h : P r.decoder) : P (readBytes host data r).2.decoder := by
  induction data generalizing r with
  | nil => exact h
  | cons b data ih =>
    by_cases hb : b = terminator
    · subst hb
      simpa only [readBytes_terminator] using h
    · have hkept := kept_step hP host b h
      rcases hstep : r.step host b with ⟨stop, next⟩
      rw [hstep] at hkept
      cases stop with
      | none =>
        rw [readBytes_cons_of_none hb hstep]
        exact ih (hP.advanceByte _ hkept)
      | some stop => rwa [readBytes_cons_of_some hb hstep]

/-- A run that stops early stops in a step from a decoder that the property holds of. -/
theorem exists_step_of_readBytes (hP : Decoder.Kept P) {data : List UInt8} {r : Run κ σ}
    {stop : Stop} (h : P r.decoder) (hstop : (readBytes host data r).1 = some stop) :
    ∃ before b, P (Run.decoder before) ∧ (before.step host b).1 = some stop := by
  induction data generalizing r with
  | nil => cases hstop
  | cons b data ih =>
    by_cases hb : b = terminator
    · subst hb
      rw [readBytes_terminator] at hstop
      cases hstop
    · have hkept := kept_step hP host b h
      rcases hstep : r.step host b with ⟨stopped, next⟩
      rw [hstep] at hkept
      cases stopped with
      | none =>
        rw [readBytes_cons_of_none hb hstep] at hstop
        exact ih (hP.advanceByte _ hkept) hstop
      | some stopped =>
        rw [readBytes_cons_of_some hb hstep] at hstop
        exact ⟨r, b, h, by rw [hstep]; exact hstop⟩

end Run

end IntelHex
