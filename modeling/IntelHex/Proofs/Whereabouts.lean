import IntelHex.Proofs.History
import IntelHex.Proofs.Lines

/-!
# Offset and line of a decoder at work

A decoder has accepted some bytes since it was reset: those that were neither refused nor behind a
terminator or a byte that was. They may have come in any pieces and by any operations. Their number is
its offset, and the lines that they end tell its line: one for each carriage return, and one for each
line feed that is not the second half of a pair. What comes between the halves of a pair, a cut, a
terminator or a refused byte, does not part them.
-/

namespace IntelHex

/-- The bytes that were accepted, among those that were read. -/
def Reading.accepted {κ : Type} (entries : List (Reading κ)) : List UInt8 :=
  (entries.filter fun e => e.stop.isNone).map Reading.byte

/-- The number of line feeds in a text that do not stand right behind a carriage return. -/
def loneLineFeeds (text : List UInt8) : Nat :=
  (List.range text.length).countP fun i =>
    text[i]? = some lineFeed ∧ (i = 0 ∨ text[i - 1]? ≠ some carriageReturn)

/-- One more byte is one more lone line feed, or none. -/
theorem loneLineFeeds_concat (text : List UInt8) (b : UInt8) :
    loneLineFeeds (text ++ [b]) = loneLineFeeds text +
      if b = lineFeed ∧ text.getLast? ≠ some carriageReturn then 1 else 0 := by
  have hbefore : ∀ i ∈ List.range text.length,
      decide ((text ++ [b])[i]? = some lineFeed ∧
          (i = 0 ∨ (text ++ [b])[i - 1]? ≠ some carriageReturn)) = true ↔
        decide (text[i]? = some lineFeed ∧ (i = 0 ∨ text[i - 1]? ≠ some carriageReturn)) = true := by
    intro i hi
    have hinside := List.mem_range.1 hi
    rw [List.getElem?_append_left hinside, List.getElem?_append_left (by omega)]
  have hlast : ((text ++ [b])[text.length]? = some lineFeed ∧
      (text.length = 0 ∨ (text ++ [b])[text.length - 1]? ≠ some carriageReturn)) ↔
      b = lineFeed ∧ text.getLast? ≠ some carriageReturn := by
    rw [List.getElem?_concat_length, Option.some_inj]
    apply and_congr_right
    intro _
    cases text using List.reverseRecOn with
    | nil => simp
    | append_singleton text c => simp
  rw [loneLineFeeds, List.length_append, List.length_singleton, List.range_succ, List.countP_append,
    List.countP_congr hbefore, List.countP_singleton, loneLineFeeds]
  simp only [decide_eq_true_eq, hlast]

/-- A line ends with each carriage return and each lone line feed. -/
theorem lineEnds_eq (text : List UInt8) :
    lineEnds text = text.count carriageReturn + loneLineFeeds text := by
  induction text using List.reverseRecOn with
  | nil => rfl
  | append_singleton text b ih =>
    rw [lineEnds_concat, ih, loneLineFeeds_concat, List.count_append, List.count_singleton]
    by_cases hreturn : b = carriageReturn
    · subst hreturn
      have hother : ¬(carriageReturn = lineFeed ∧ text.getLast? ≠ some carriageReturn) :=
        fun h => absurd h.1 (by decide)
      simp only [true_or, if_true, beq_self_eq_true, if_neg hother]
      omega
    · have hbeq : (b == carriageReturn) = false := beq_false_of_ne hreturn
      simp only [hreturn, false_or, hbeq, Bool.false_eq_true, if_false]
      omega

namespace Reading

variable {κ : Type} {e : Reading κ}

/-- The bytes that were accepted of two journals in a row. -/
theorem accepted_append (first second : List (Reading κ)) :
    accepted (first ++ second) = accepted first ++ accepted second := by
  simp only [accepted, List.filter_append, List.map_append]

/-- A byte that stops nothing was accepted. -/
theorem accepted_cons_of_none (h : e.stop = none) (entries : List (Reading κ)) :
    accepted (e :: entries) = e.byte :: accepted entries := by
  simp [accepted, h]

/-- A byte that stops the run was not accepted. -/
theorem accepted_singleton_of_some {stop : Stop} (h : e.stop = some stop) : accepted [e] = [] := by
  simp [accepted, h]

end Reading

namespace Decoder

variable {κ : Type} {d : Decoder κ} {accepted : List UInt8}

/-- A decoder that has been reset has accepted nothing. -/
theorem tracks_reset (d : Decoder κ) : d.reset.Tracks [] :=
  ⟨rfl, rfl, ⟨nofun, nofun⟩, fun hinside => absurd rfl hinside⟩

/-- The error that is remembered has no part in the position. -/
theorem Tracks.setError (h : d.Tracks accepted) (error : Option DecodingError) :
    Tracks accepted { d with lastError := error } :=
  ⟨h.offset, h.line, h.afterReturn, h.inside⟩

end Decoder

namespace Run

variable {κ σ : Type} {host : Host κ σ} {r : Run κ σ} {past : List (Reading κ)}

/-- Reading counts the bytes that it accepts, and their lines. -/
theorem tracks_readings (hsteady : host.Steady) (h : r.decoder.Tracks (Reading.accepted past))
    (data : List UInt8) :
    (readBytes host data r).2.decoder.Tracks (Reading.accepted (past ++ readings host data r)) := by
  induction data generalizing r past with
  | nil => simpa only [readings, readBytes, List.append_nil] using h
  | cons b data ih =>
    by_cases hb : b = terminator
    · subst hb
      simpa only [readings_terminator, readBytes_terminator, List.append_nil] using h
    · rcases hstep : r.step host b with ⟨stop, next⟩
      have hentry : (r.reading host b).stop = stop := congrArg Prod.fst hstep
      cases stop with
      | none =>
        rw [readings_cons_of_none hb hstep, readBytes_cons_of_none hb hstep, List.append_cons]
        apply ih
        rw [Reading.accepted_append, Reading.accepted_cons_of_none hentry]
        exact tracks_step hsteady h hstep
      | some stop =>
        rw [readings_cons_of_some hb hstep, readBytes_cons_of_some hb hstep,
          Reading.accepted_append, Reading.accepted_singleton_of_some hentry, List.append_nil]
        exact h.of_view_eq (view_step_of_some hsteady hstep)

/-- Feeding counts the bytes that it accepts, and their lines. -/
theorem tracks_feed (hsteady : host.Steady) (past : List (Reading κ)) (r : Run κ σ)
    (data : List UInt8) (h : r.decoder.Tracks (Reading.accepted past)) :
    (r.feed host data).2.decoder.Tracks
      (Reading.accepted (past ++ r.feedReadings host data)) := by
  have hread := tracks_readings (r := r.setError none) hsteady (h.setError none) data
  rw [feed_eq_conclude, feedReadings]
  rcases hlast : (r.setError none).readBytes host data with ⟨_ | (failure | message | _), next⟩
    <;> rw [hlast] at hread
  · exact hread
  · rw [conclude, decoder_note]
    exact hread.setError _
  · exact hread
  · exact hread

/-- After a reset, whatever operations follow, in whatever pieces the input comes, and whatever is
refused or broken off in between, as long as there is no other reset: the offset is the number of
bytes that were accepted, and the line is one more than the number of carriage returns and lone line
feeds among them. -/
theorem position_of_accepted (hsteady : host.Steady) (r : Run κ σ) {ops : List (Operation κ)}
    (hops : ∀ op ∈ ops, op ≠ .reset) :
    let renewed : Run κ σ := { r with decoder := r.decoder.reset }
    let accepted := Reading.accepted (renewed.history host ops)
    let position := (renewed.performAll host ops).2.decoder.position
    position.offset = accepted.length ∧
      position.line = 1 + accepted.count carriageReturn + loneLineFeeds accepted := by
  intro renewed accepted position
  have htracks : (renewed.performAll host ops).2.decoder.Tracks
      (Reading.accepted ([] ++ renewed.history host ops)) := by
    apply performAll_grows (Q := fun past r => r.decoder.Tracks (Reading.accepted past))
      (tracks_feed hsteady)
    · intro past r consumer h
      exact ⟨h.offset, h.line, h.afterReturn, h.inside⟩
    · intro hreset
      exact absurd rfl (hops .reset hreset)
    · exact r.decoder.tracks_reset
  rw [List.nil_append] at htracks
  refine ⟨htracks.offset, ?_⟩
  rw [Nat.add_assoc, ← lineEnds_eq]
  exact htracks.line

/-- A carriage return and its line feed, parted by a terminator and a refused byte, and a carriage
return inside a record, which is refused: four bytes were accepted, and one line was ended. -/
theorem position_of_accepted_parted :
    let host : Host Unit Nat := fun _ _ count => ({ verdict := .accept }, count + 1)
    let r := Run.start (.fresh (some ()) 255 [0]) 0 false
    let ops : List (Operation Unit) :=
      [.feed [0x0D, 0x00, 0x3A] none, .feed [0x78] none, .feed [0x0A, 0x3A, 0x30] (some 2),
        .register none, .stream 1 (.ofBytes [0x30, 0x0D])]
    host.Steady ∧ (∀ op ∈ ops, op ≠ .reset) ∧
      Reading.accepted (r.history host ops) = [0x0D, 0x0A, 0x3A, 0x30] ∧
      (r.performAll host ops).2.decoder.position.offset = 4 ∧
      (r.performAll host ops).2.decoder.position.line = 2 := by
  intro host r ops
  have hsteady : host.Steady := fun _ _ _ => rfl
  have hops : ∀ op ∈ ops, op ≠ .reset := by simp [ops]
  have haccepted : Reading.accepted (r.history host ops) = [0x0D, 0x0A, 0x3A, 0x30] := by
    decide +kernel
  obtain ⟨hoffset, hline⟩ := position_of_accepted hsteady r hops
  refine ⟨hsteady, hops, haccepted, ?_, ?_⟩
  · exact hoffset.trans (congrArg List.length haccepted)
  · exact hline.trans
      (congrArg (fun bytes => 1 + bytes.count carriageReturn + loneLineFeeds bytes) haccepted)

end Run

end IntelHex
