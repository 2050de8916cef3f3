import IntelHex.Proofs.Tracing

/-!
# The trace against the calls

The data blocks that a trace tells and those that the consumers are given are found in different ways.
They are the same as long as somebody is registered, and the messages alone determine them. Whether a
run is traced makes no difference to what it does.
-/

namespace IntelHex

namespace Reading

variable {κ σ : Type} {host : Host κ σ}

/-- The address and the bytes of the data block that a consumer is given. -/
def given? (e : Reading κ) : Option (Int × List UInt8) :=
  e.call?.map fun call => (call.2.address, call.2.data)

/-- The address and the bytes of the data record that is told. -/
def told? (e : Reading κ) : Option (Nat × List UInt8) :=
  e.record?.bind Event.block?

/-- With a consumer, what is told of a data record is what the consumer is given. -/
theorem given?_reading {s : Run κ σ} (hconsumer : s.decoder.consumer.isSome) (b : UInt8) :
    (s.reading host b).given? = (s.reading host b).told?.map fun block => ((block.1 : Int), block.2) := by
  have hmoves := Decoder.moves_advance s.decoder b
  rw [given?, told?, call?, record?, Run.reading]
  cases haction : (s.decoder.advance b).2 with
  | proceed | refuse cause | overrun => rfl
  | finish event =>
    rw [haction] at hmoves
    simp [Action.event?, hmoves.block?_of_finish hconsumer]
  | deliver event consumer block =>
    rw [haction] at hmoves
    obtain ⟨rfl, rfl⟩ := hmoves.eq_of_deliver
    rfl

/-- The address that is told of a data record has 32 bits. -/
theorem told?_lt {s : Run κ σ} {b : UInt8} {block : Nat × List UInt8}
    (h : (s.reading host b).told? = some block) : block.1 < 2 ^ 32 := by
  obtain ⟨event, hevent, hblock⟩ := Option.bind_eq_some_iff.1 h
  have hmoves := Decoder.moves_advance s.decoder b
  obtain ⟨-, rfl, -⟩ := hmoves.completes hevent
  exact Decoder.block?_recordEvent_lt hblock

/-- The data records in what some entries log are those that are told; failures tell none. -/
theorem blocks_logged (entries : List (Reading κ)) :
    (entries.flatMap logged).filterMap Event.block? = entries.filterMap told? := by
  induction entries with
  | nil => rfl
  | cons e entries ih =>
    have herror (error : Option DecodingError) :
        (error.map Event.failed).toList.filterMap Event.block? = [] := by
      cases error <;> rfl
    rw [List.flatMap_cons, List.filterMap_append, ih, logged, List.filterMap_append, herror,
      List.append_nil, List.filterMap_cons, told?]
    cases e.record? with
    | none => rfl
    | some event => cases hblock : event.block? <;> simp [hblock]

end Reading

namespace Run

variable {κ σ : Type} {host : Host κ σ} {r : Run κ σ}

/-- The data blocks that consumers have been given, and those that the trace tells. -/
structure ToldAsGiven (calls : List (κ × Delivery)) (trace : List Event) : Prop where
  /-- The messages that tell data records tell the blocks that have been given, one by one. -/
  messages : (trace.map Event.message).filter Event.tellsData =
    calls.map fun call => Event.dataMessage (call.2.address.toNat, call.2.data)
  /-- The addresses have 32 bits. -/
  address : ∀ call ∈ calls, 0 ≤ call.2.address ∧ call.2.address < 2 ^ 32
  /-- No other blocks have these messages. -/
  unique : ∀ blocks : List (Nat × List UInt8), (∀ block ∈ blocks, block.1 < 2 ^ 32) →
    blocks.map Event.dataMessage = (trace.map Event.message).filter Event.tellsData →
    calls.map (fun call => (call.2.address, call.2.data)) =
      blocks.map fun block => ((block.1 : Int), block.2)

/-- If the blocks given are the data records told, these determine them. -/
theorem toldAsGiven_of_blocks {calls : List (κ × Delivery)} {trace : List Event}
    (hlt : ∀ block ∈ trace.filterMap Event.block?, block.1 < 2 ^ 32)
    (h : calls.map (fun call => (call.2.address, call.2.data)) =
      (trace.filterMap Event.block?).map fun block => ((block.1 : Int), block.2)) :
    ToldAsGiven calls trace := by
  refine ⟨?_, fun call hcall => ?_, fun blocks hblocks hmessages => ?_⟩
  · have hmessages := congrArg (List.map fun block => Event.dataMessage (block.1.toNat, block.2)) h
    rw [List.map_map, List.map_map] at hmessages
    rw [Event.filter_tellsData]
    exact hmessages.symm
  · have hmem := List.mem_map_of_mem (f := fun call => (call.2.address, call.2.data)) hcall
    rw [h] at hmem
    obtain ⟨block, hblock, heq⟩ := List.mem_map.1 hmem
    obtain ⟨haddress, -⟩ := Prod.ext_iff.1 heq
    have hsmall := hlt block hblock
    change (block.1 : Int) = call.2.address at haddress
    omega
  · rw [Event.filter_tellsData] at hmessages
    rw [h, Event.map_dataMessage_inj hblocks hlt hmessages]

/-- Whatever is registered, as long as it is somebody, what the trace tells of data records is what the
consumers are given. -/
theorem toldAsGiven_history (htraced : r.traced = true) (htrace : r.trace = [])
    (hconsumer : r.decoder.consumer.isSome) {ops : List (Operation κ)}
    (hops : ∀ consumer, .register consumer ∈ ops → consumer.isSome) :
    ToldAsGiven ((r.history host ops).filterMap Reading.call?) (r.performAll host ops).2.trace := by
  obtain ⟨hrecounts, hreaders⟩ := recounts_history host htraced ops
  have hregistered := isSome_consumer_of_mem_history host hconsumer hops
  have hentry : ∀ e ∈ r.history host ops,
      e.given? = e.told?.map (fun block => ((block.1 : Int), block.2)) ∧
        ∀ block, e.told? = some block → block.1 < 2 ^ 32 := by
    intro e he
    obtain ⟨earlier, later, hsplit⟩ := List.append_of_mem he
    obtain ⟨reader, -, hread⟩ := hreaders earlier e later hsplit
    have hthere := hregistered e he
    rw [hread] at hthere ⊢
    exact ⟨Reading.given?_reading hthere _, fun block => Reading.told?_lt⟩
  have htold : (r.performAll host ops).2.trace.filterMap Event.block? =
      (r.history host ops).filterMap Reading.told? := by
    rw [hrecounts.trace, htrace, List.nil_append, Reading.blocks_logged]
  apply toldAsGiven_of_blocks
  · intro block hblock
    rw [htold] at hblock
    obtain ⟨e, he, hblock⟩ := List.mem_filterMap.1 hblock
    exact (hentry e he).2 block hblock
  · rw [htold, List.map_filterMap, List.map_filterMap]
    exact List.filterMap_congr fun e he => (hentry e he).1

/-- Tracing a new decoder changes nothing, whatever operations are performed. The trace is what the
entries of the bytes log, each read by a run whose trace the entries before it have logged. As long as
somebody is registered, the messages that tell data records and the calls determine each other. Any
further operation adds records, and at the end the error that ended it early, if one did. -/
theorem trace_faithful (host : Host κ σ) (consumer : Option κ) (capacity : Nat)
    (supported : List Int) (world : σ) (ops : List (Operation κ)) :
    let silent := start (.fresh consumer capacity supported) world false
    let first := start (.fresh consumer capacity supported) world true
    let history := first.history host ops
    let last := (first.performAll host ops).2
    ((first.performAll host ops).1 = (silent.performAll host ops).1 ∧
        last.decoder = (silent.performAll host ops).2.decoder ∧
        last.world = (silent.performAll host ops).2.world ∧
        history = silent.history host ops) ∧
      last.trace = history.flatMap Reading.logged ∧
      last.world = host.served (history.filterMap Reading.call?) world ∧
      (∀ earlier e later, history = earlier ++ e :: later → ∃ reader : Run κ σ,
        reader.decoder = e.before ∧ reader.trace = earlier.flatMap Reading.logged ∧
          reader.world = host.served (earlier.filterMap Reading.call?) world ∧ reader.Logs host e) ∧
      (consumer.isSome → (∀ other, .register other ∈ ops → other.isSome) →
        ToldAsGiven (history.filterMap Reading.call?) last.trace) ∧
      ∀ op, last.Ends (last.perform host op).1 (last.perform host op).2 := by
  intro silent first history last
  have hstep : InStep Eq Eq False first silent := ⟨rfl, rfl, False.elim⟩
  obtain ⟨hresults, hsame⟩ := hstep.performAll Decoder.bisimulation_eq (Host.agree_eq host) ops
  have htraced : first.traced = true := rfl
  obtain ⟨hrecounts, hreaders⟩ := recounts_history host htraced ops
  refine ⟨⟨hresults, hsame.decoder, hsame.world, hstep.history_eq (Host.agree_eq host) ops⟩,
    hrecounts.trace, hrecounts.world, fun earlier e later hsplit => ?_, fun hconsumer hops => ?_,
    fun op => ends_perform hrecounts.traced op⟩
  · obtain ⟨reader, hreader, hread⟩ := hreaders earlier e later hsplit
    have hlogs := logs_reading host hreader.traced e.byte
    rw [← hread] at hlogs
    exact ⟨reader, by rw [hread]; rfl, hreader.trace, hreader.world, hlogs⟩
  · exact toldAsGiven_history rfl rfl hconsumer hops

/-- A block that is rejected, and offered again at one more digit: it is told twice, and the failure in
between. -/
theorem trace_faithful_offered_twice :
    let host : Host Unit Nat := fun _ _ count =>
      ({ verdict := if count = 0 then .reject else .accept }, count + 1)
    let record : List UInt8 :=
      [0x3A, 0x30, 0x31, 0x30, 0x30, 0x30, 0x30, 0x30, 0x30, 0x34, 0x31, 0x42, 0x45]
    let ops : List (Operation Unit) := [.feed record none, .register (some ()), .feed [0x30] none]
    let first := start (.fresh (some ()) 255 [0]) 0 true
    (∀ other, .register other ∈ ops → other.isSome) ∧
      ToldAsGiven ((first.history host ops).filterMap Reading.call?)
        (first.performAll host ops).2.trace ∧
      (first.performAll host ops).2.trace =
        [.data 0 [0x41], .failed (.own ⟨.rejected 0, 12, 1⟩), .data 0 [0x41]] ∧
      (first.performAll host ops).2.world = 2 := by
  intro host record ops
  -- the run is written out, so that it is recognised below without being evaluated
  dsimp only
  have hops : ∀ other, .register other ∈ ops → other.isSome := by
    intro other hmem
    simp only [ops, List.mem_cons, reduceCtorEq, Operation.register.injEq, List.not_mem_nil,
      false_or, or_false] at hmem
    rw [hmem]
    rfl
  obtain ⟨-, -, -, -, htold, -⟩ := trace_faithful host (some ()) 255 [0] 0 ops
  exact ⟨hops, htold rfl hops, by decide +kernel, by decide +kernel⟩

end Run

end IntelHex
