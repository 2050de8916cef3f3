import IntelHex.Proofs.Events
import IntelHex.Proofs.History
import IntelHex.Proofs.Wording

/-!
# The trace as a record of the run

A traced run notes an event for each record that passes its checks, before a consumer is asked, and one
for each refused byte, when the feed ends. So the entries that the bytes leave in the history of the run
say what it traces: the trace is what they log, one after the other, also for the run that reads the
next byte. Within an operation only the last entry logs an error.
-/

namespace IntelHex

/-- The error that stopped a run. -/
def Stop.error? : Option Stop → Option DecodingError
  | some (.failed error) => some error
  | _ => none

/-- The error that ended an intake. -/
def Intake.error? : Except Abort Intake → Option DecodingError
  | .ok (.refused error) => some error
  | _ => none

/-- The error that ended an operation. -/
def Operation.Result.error? : Operation.Result → Option DecodingError
  | .fed outcome | .streamed outcome _ => Intake.error? outcome
  | .done | .address _ => none

namespace Reading

variable {κ : Type}

/-- The event of the record that the byte completes. -/
def record? (e : Reading κ) : Option Event :=
  e.action.event?

/-- What the byte logs: the record that it completes, and its error. -/
def logged (e : Reading κ) : List Event :=
  e.record?.toList ++ ((Stop.error? e.stop).map Event.failed).toList

end Reading

namespace Run

variable {κ σ τ : Type} {host : Host κ σ} {first r : Run κ σ} {past : List (Reading κ)}

/-- The error that ends a feed is the one that stopped its reading. -/
theorem error?_conclude (read : Option Stop × Run κ σ) :
    Intake.error? (conclude read).1 = Stop.error? read.1 := by
  rcases read with ⟨_ | (error | message | _), next⟩ <;> rfl

/-- A traced event stands at the end of the trace. -/
theorem trace_note (htraced : r.traced = true) (event : Event) :
    (r.note event).trace = r.trace ++ [event] := by
  rw [note, if_pos htraced]

/-- Some entries recount what has happened since the beginning of a traced run: what was traced, and
which calls the consumers have seen. -/
structure Recounts (host : Host κ σ) (first : Run κ σ) (past : List (Reading κ)) (r : Run κ σ) :
    Prop where
  /-- Events are still traced. -/
  traced : r.traced = true
  /-- The trace goes on with what the entries log. -/
  trace : r.trace = first.trace ++ past.flatMap Reading.logged
  /-- The consumers have seen the calls in the entries. -/
  world : r.world = host.served (past.filterMap Reading.call?) first.world

/-- At the beginning there is nothing to recount. -/
theorem recounts_nil (htraced : first.traced = true) : Recounts host first [] first :=
  ⟨htraced, by rw [List.flatMap_nil, List.append_nil], rfl⟩

variable (host) in
/-- A delivery traces nothing. -/
theorem trace_deliver (consumer : κ) (block : Delivery) (r : Run κ σ) :
    (r.deliver host consumer block).2.traced = r.traced ∧
      (r.deliver host consumer block).2.trace = r.trace := by
  rw [deliver_eq]
  generalize host consumer block r.world = answer
  cases hverdict : answer.1.verdict with
  | accept | reject | fail error | raise message => exact ⟨rfl, rfl⟩

variable (host) in
/-- A step traces the record that it completes. -/
theorem trace_step (htraced : r.traced = true) (b : UInt8) :
    (r.step host b).2.traced = true ∧
      (r.step host b).2.trace = r.trace ++ (r.reading host b).record?.toList := by
  have hadvanced : (r.advanced b).traced = true := htraced
  rw [step_eq, Reading.record?, reading]
  cases (r.decoder.advance b).2 with
  | proceed | refuse cause | overrun => exact ⟨htraced, (List.append_nil r.trace).symm⟩
  | finish event => exact ⟨(traced_note _ event).trans htraced, trace_note hadvanced event⟩
  | deliver event consumer block =>
    obtain ⟨htracing, htrace⟩ :=
      trace_deliver host consumer block ((r.advanced b).note event)
    exact ⟨htracing.trans ((traced_note _ event).trans htraced),
      htrace.trans (trace_note hadvanced event)⟩

/-- The end of a feed traces the error. -/
theorem trace_conclude {read : Option Stop × Run κ σ} (htraced : read.2.traced = true) :
    (conclude read).2.traced = true ∧ (conclude read).2.trace =
      read.2.trace ++ ((Stop.error? read.1).map Event.failed).toList := by
  rcases read with ⟨_ | (error | message | _), next⟩
  · exact ⟨htraced, (List.append_nil _).symm⟩
  · exact ⟨(traced_note _ _).trans htraced,
      trace_note (r := next.setError (some error)) htraced (.failed error)⟩
  · exact ⟨htraced, (List.append_nil _).symm⟩
  · exact ⟨htraced, (List.append_nil _).symm⟩

namespace Recounts

/-- The decoder is not recounted. -/
theorem replace (h : Recounts host first past r) (d : Decoder κ) :
    Recounts host first past { r with decoder := d } :=
  ⟨h.traced, h.trace, h.world⟩

/-- A byte is recounted by its entry; if it is the last one of a feed, once the feed has ended. -/
theorem step (h : Recounts host first past r) (b : UInt8) :
    Recounts host first (past ++ [r.reading host b]) (conclude (r.step host b)).2 := by
  obtain ⟨htraced, htrace⟩ := trace_step host h.traced b
  obtain ⟨htracing, hconcluded⟩ := trace_conclude htraced
  refine ⟨htracing, ?_, ?_⟩
  · rw [hconcluded, htrace, h.trace, List.flatMap_append, List.flatMap_singleton, Reading.logged,
      List.append_assoc, List.append_assoc]
    rfl
  · rw [world_conclude, world_step, h.world, ← Host.served_append, List.filterMap_append,
      Reading.calls_cons, List.filterMap_nil, List.append_nil]

/-- The bytes that are read are recounted by their entries, once the feed has ended. -/
theorem readings (h : Recounts host first past r) (data : List UInt8) :
    Recounts host first (past ++ r.readings host data) (conclude (r.readBytes host data)).2 := by
  induction data generalizing past r with
  | nil =>
    rw [Run.readings, List.append_nil]
    exact h
  | cons b data ih =>
    by_cases hb : b = terminator
    · subst hb
      rw [readings_terminator, readBytes_terminator, List.append_nil]
      exact h
    · have hstepped := h.step b
      rcases hstep : r.step host b with ⟨_ | stop, next⟩
      · rw [hstep] at hstepped
        rw [readings_cons_of_none hb hstep, readBytes_cons_of_none hb hstep, List.append_cons]
        exact ih (hstepped.replace _)
      · rw [hstep] at hstepped
        rw [readings_cons_of_some hb hstep, readBytes_cons_of_some hb hstep]
        exact hstepped

/-- A feed is recounted by its entries. -/
theorem feed (h : Recounts host first past r) (data : List UInt8) :
    Recounts host first (past ++ r.feedReadings host data) (r.feed host data).2 := by
  rw [feed_eq_conclude, feedReadings]
  exact readings (r := r.setError none) (h.replace _) data

/-- Every byte is read by a run that the entries before it recount. -/
theorem reader (h : Recounts host first past r) {data : List UInt8} {e : Reading κ}
    {earlier later : List (Reading κ)} (hsplit : r.readings host data = earlier ++ e :: later) :
    ∃ s, Recounts host first (past ++ earlier) s ∧ e = s.reading host e.byte := by
  induction data generalizing past r earlier with
  | nil => simp [Run.readings] at hsplit
  | cons b data ih =>
    by_cases hb : b = terminator
    · subst hb
      simp [readings_terminator] at hsplit
    · cases earlier with
      | nil =>
        rw [Run.readings, if_neg hb] at hsplit
        obtain ⟨rfl, -⟩ := List.cons.inj hsplit
        exact ⟨r, by rwa [List.append_nil], rfl⟩
      | cons entry earlier =>
        have hstepped := h.step b
        rcases hstep : r.step host b with ⟨_ | stop, next⟩
        · rw [hstep] at hstepped
          rw [readings_cons_of_none hb hstep] at hsplit
          obtain ⟨rfl, hrest⟩ := List.cons.inj hsplit
          rw [List.append_cons]
          exact ih (r := next.countByte) (hstepped.replace _) hrest
        · rw [readings_cons_of_some hb hstep] at hsplit
          simp at hsplit

end Recounts

variable (host) in
/-- The history of a traced run recounts the run, and the entries before a byte the run that reads it. -/
theorem recounts_history (htraced : first.traced = true) (ops : List (Operation κ)) :
    Recounts host first (first.history host ops) (first.performAll host ops).2 ∧
      ∀ earlier e later, first.history host ops = earlier ++ e :: later →
        ∃ s, Recounts host first earlier s ∧ e = s.reading host e.byte := by
  rw [← List.nil_append (first.history host ops)]
  apply performAll_grows (Q := fun past r => Recounts host first past r ∧ ∀ earlier e later,
    past = earlier ++ e :: later → ∃ s, Recounts host first earlier s ∧ e = s.reading host e.byte)
  · rintro past r data ⟨hpast, hearlier⟩
    refine ⟨hpast.feed data, fun earlier e later hsplit => ?_⟩
    rcases Reading.of_append_eq hsplit with ⟨rest, hinside⟩ | ⟨head, rfl, hbehind⟩
    · exact hearlier earlier e rest hinside
    · exact (hpast.replace _).reader hbehind
  · rintro past r consumer ⟨hpast, hearlier⟩
    exact ⟨hpast.replace _, hearlier⟩
  · rintro - past r ⟨hpast, hearlier⟩
    exact ⟨hpast.replace _, hearlier⟩
  · exact ⟨recounts_nil htraced, fun earlier e later hsplit => by simp at hsplit⟩

/-- What a run logs when it reads a byte. -/
structure Logs (host : Host κ σ) (s : Run κ σ) (e : Reading κ) : Prop where
  /-- The byte is read, and traces the record that it completes, if it does. -/
  traces : (s.step host e.byte).2.trace = s.trace ++ e.record?.toList ∧
    (s.step host e.byte).2.decoder = e.after
  /-- There is such a record exactly if the checksum test passes. -/
  passes : e.record?.isSome ↔ e.before.Passes e.byte
  /-- It is not told as an error. -/
  record : ∀ event ∈ e.record?, event.error? = none
  /-- Its message tells the record that was read. -/
  message : ∀ event ∈ e.record?, e.before.Tells event.message
  /-- When a consumer is called, the record has been traced. -/
  call : ∀ consumer block, e.call? = some (consumer, block) →
    ∃ (event : Event) (asking : Run κ σ), e.record? = some event ∧
      asking.trace = s.trace ++ [event] ∧ asking.world = s.world ∧
        s.step host e.byte = asking.deliver host consumer block
  /-- An extended address is told with what the record has set: the mode, the upper part that its
  payload gives, and the address of low part zero under them. -/
  extended : ∀ mode base, e.record? = some (.extended mode base) →
    e.after.addressing = ⟨mode, e.before.frame.extension⟩ ∧ base = e.after.addressing.absolute 0

variable (host) in
/-- A traced run logs what it should. -/
theorem logs_reading {s : Run κ σ} (htraced : s.traced = true) (b : UInt8) :
    s.Logs host (s.reading host b) := by
  have hmoves := Decoder.moves_advance s.decoder b
  refine ⟨⟨(trace_step host htraced b).2, rfl⟩, hmoves.event_iff, fun event hevent => ?_,
    fun event hevent => ?_, fun consumer block hcall => ?_, fun mode base hevent => ?_⟩
  · obtain ⟨-, rfl, -⟩ := hmoves.completes hevent
    exact Decoder.error?_recordEvent _
  · obtain ⟨-, rfl, -⟩ := hmoves.completes hevent
    exact s.decoder.tells_recordEvent
  · obtain ⟨event, haction⟩ := action_of_call hcall
    have hrecord : (s.reading host b).record? = some event := by
      rw [Reading.record?, reading, haction]
      rfl
    refine ⟨event, (s.advanced b).note event, hrecord, trace_note (r := s.advanced b) htraced event,
      world_note _ event, ?_⟩
    rw [reading, step_eq, haction]
    rfl
  · obtain ⟨haddressing, hrecord, ⟨haction, -⟩ | ⟨consumer, -, hkind⟩⟩ := hmoves.completes hevent
    · have hafter : (s.reading host b).after = (s.decoder.advance b).1 := by
        change (s.step host b).2.decoder = (s.decoder.advance b).1
        rw [step_eq, haction]
        exact decoder_note _ _
      rw [hafter, haddressing]
      exact Decoder.recordEvent_extended hrecord.symm
    · rw [Decoder.recordEvent_of_data (by exact hkind)] at hrecord
      cases hrecord

/-- How an operation ends the trace: records, and then the error that ended it, if one did, which the
decoder remembers. -/
structure Ends (r : Run κ σ) (result : Operation.Result) (after : Run κ σ) : Prop where
  /-- Only the last message tells an error, if one ended the operation. -/
  messages : ∃ records : List Event, (∀ event ∈ records, Event.tellsFailure event.message = false) ∧
    after.trace.map Event.message = r.trace.map Event.message ++ records.map Event.message ++
      (result.error?.map fun error => "line " ++ toString error.line ++ ", offset " ++
        toString error.offset ++ ": " ++ error.message).toList
  /-- It is the error that the decoder remembers. -/
  remembered : ∀ error ∈ result.error?, after.decoder.lastError = some error

/-- The entries of some bytes log records, and then the error that ended the intake, if one did, which
the decoder remembers. -/
structure Closing (entries : List (Reading κ)) (error : Option DecodingError) (after : Run κ σ) :
    Prop where
  logged : entries.flatMap Reading.logged =
    entries.filterMap Reading.record? ++ (error.map Event.failed).toList
  remembered : ∀ f ∈ error, after.decoder.lastError = some f

/-- Without a byte nothing is logged. -/
theorem closing_nil (after : Run κ σ) : Closing [] none after := by
  refine ⟨rfl, fun error herror => ?_⟩
  cases herror

/-- Only the last byte that is read can log an error. -/
theorem logged_readings (data : List UInt8) (r : Run κ σ) :
    (r.readings host data).flatMap Reading.logged =
      (r.readings host data).filterMap Reading.record? ++
        ((Stop.error? (r.readBytes host data).1).map Event.failed).toList := by
  induction data generalizing r with
  | nil => rfl
  | cons b data ih =>
    by_cases hb : b = terminator
    · subst hb
      rw [readings_terminator, readBytes_terminator]
      rfl
    · have hstop : (r.reading host b).stop = (r.step host b).1 := rfl
      rcases hstep : r.step host b with ⟨_ | stop, next⟩
      · rw [hstep] at hstop
        rw [readings_cons_of_none hb hstep, readBytes_cons_of_none hb hstep, List.flatMap_cons, ih,
          Reading.logged, hstop, ← List.append_assoc]
        congr 1
        rw [List.filterMap_cons]
        cases (r.reading host b).record? <;> rfl
      · rw [hstep] at hstop
        rw [readings_cons_of_some hb hstep, readBytes_cons_of_some hb hstep, List.flatMap_singleton,
          Reading.logged, hstop, List.filterMap_cons]
        cases (r.reading host b).record? <;> rfl

variable (host) in
/-- A feed closes with its error. -/
theorem closing_feed (data : List UInt8) (r : Run κ σ) :
    Closing (r.feedReadings host data) (Intake.error? (r.feed host data).1) (r.feed host data).2 := by
  refine ⟨?_, fun error herror => ?_⟩
  · rw [feed_eq_conclude, error?_conclude, feedReadings, logged_readings]
  · rw [feed_eq_conclude, error?_conclude] at herror
    rw [feed_eq_conclude]
    generalize readBytes host data (r.setError none) = read at herror ⊢
    rcases read with ⟨_ | (found | message | _), next⟩
    · cases herror
    · cases herror
      exact congrArg Decoder.lastError (decoder_note _ _)
    · cases herror
    · cases herror

/-- A source that is fed chunk by chunk closes with its error. -/
theorem closing_drain (size : Nat) (source : Source) (r : Run κ σ) :
    Closing (r.drainReadings host size source) (Intake.error? (r.drain host size source).1)
      (r.drain host size source).2.1 := by
  fun_induction drain host size source r with
  | case1 source r hempty =>
    rw [drainReadings, dif_pos hempty]
    exact closing_nil _
  | case2 source r hchunk next heq hend =>
    have hfed := closing_feed host (source.read size).1 r
    rw [drainReadings, dif_neg hchunk]
    simp only [heq, if_pos hend, List.append_nil] at hfed ⊢
    exact hfed
  | case3 source r hchunk next heq hend ih =>
    have hfed := closing_feed host (source.read size).1 r
    rw [drainReadings, dif_neg hchunk]
    simp only [heq, if_neg hend] at hfed ⊢
    refine ⟨?_, ih.remembered⟩
    rw [List.flatMap_append, List.filterMap_append, hfed.logged, ih.logged, List.append_assoc]
    simp [Intake.error?]
  | case4 source r hchunk stopped next hstopped heq =>
    have hfed := closing_feed host (source.read size).1 r
    rw [drainReadings, dif_neg hchunk]
    rw [heq] at hfed ⊢
    rcases stopped with abort | (_ | error)
    · simpa only [List.append_nil] using hfed
    · exact (hstopped rfl).elim
    · simpa only [List.append_nil] using hfed

variable (host) in
/-- Any operation closes with its error. -/
theorem closing_perform (op : Operation κ) (r : Run κ σ) :
    Closing (r.operationReadings host op) (r.perform host op).1.error? (r.perform host op).2 := by
  cases op with
  | feed data count =>
    change Closing (r.operationReadings host (.feed data count))
      (Intake.error? (r.feedCounted host data count).1) (r.feedCounted host data count).2
    rw [operationReadings]
    cases hbytes : selected? data count with
    | none =>
      rw [feedCounted_of_unselected hbytes]
      exact closing_nil _
    | some bytes =>
      rw [feedCounted_of_selected hbytes]
      exact closing_feed host bytes r
  | stream size source =>
    change Closing (r.operationReadings host (.stream size source))
      (Intake.error? (r.feedSource host size source).1) (r.feedSource host size source).2.1
    rw [operationReadings, feedSource]
    by_cases hsize : size ≤ 0
    · simp only [if_pos hsize]
      exact closing_nil _
    · simp only [if_neg hsize]
      cases source.refusal? size.toNat with
      | some error => exact closing_nil _
      | none => exact closing_drain size.toNat source r
  | reset | register consumer | address low => exact closing_nil _

/-- An operation on a traced run ends the trace as it should. -/
theorem ends_perform (htraced : r.traced = true) (op : Operation κ) :
    r.Ends (r.perform host op).1 (r.perform host op).2 := by
  -- the operation by itself is a history, so that all its entries are recounted
  obtain ⟨hrecounts, hreaders⟩ := recounts_history host htraced [op]
  have hclosing := closing_perform host op r
  refine ⟨⟨(r.operationReadings host op).filterMap Reading.record?, fun event hevent => ?_, ?_⟩,
    hclosing.remembered⟩
  · obtain ⟨e, he, hevent⟩ := List.mem_filterMap.1 hevent
    obtain ⟨earlier, later, hsplit⟩ := List.append_of_mem he
    obtain ⟨reader, hreader, hread⟩ := hreaders earlier e later (by
      rw [history, history, List.append_nil]
      exact hsplit)
    have hlogs := logs_reading host hreader.traced e.byte
    rw [← hread] at hlogs
    rw [Event.tellsFailure_message, hlogs.record event hevent]
    rfl
  · have htrace := hrecounts.trace
    rw [history, history, List.append_nil, hclosing.logged] at htrace
    have hmessages := congrArg (List.map Event.message) htrace
    rw [List.map_append, List.map_append, ← List.append_assoc] at hmessages
    refine hmessages.trans (congrArg _ ?_)
    cases (r.perform host op).1.error? <;> rfl

end Run

end IntelHex
