import IntelHex.Proofs.Stopping

/-!
# Counting lines

The line that a decoder stands in is one more than the number of line ends among the bytes that it has
accepted, where a line feed right behind a carriage return ends no line of its own. What carries this
from byte to byte is the memory of a last carriage return: only bytes between records touch it, and
this is enough, since no record is begun without clearing it.
-/

namespace IntelHex

/-- The number of line ends in a text that follows a byte or stands at the beginning. A line feed right
behind a carriage return belongs to it. -/
def lineEndsAfter (last : Option UInt8) : List UInt8 → Nat
  | [] => 0
  | b :: rest =>
    (if b = carriageReturn ∨ (b = lineFeed ∧ last ≠ some carriageReturn) then 1 else 0) +
      lineEndsAfter (some b) rest

/-- The number of line ends in a text. -/
def lineEnds (text : List UInt8) : Nat :=
  lineEndsAfter none text

/-- The line ends of texts in a row add up, as long as each text knows the byte before it. -/
theorem lineEndsAfter_append (last : Option UInt8) (text rest : List UInt8) :
    lineEndsAfter last (text ++ rest) =
      lineEndsAfter last text + lineEndsAfter (text.getLast?.or last) rest := by
  induction text generalizing last with
  | nil => simp [lineEndsAfter]
  | cons b text ih =>
    rw [List.cons_append, lineEndsAfter, lineEndsAfter, ih, Nat.add_assoc, List.getLast?_cons]
    cases text.getLast? <;> rfl

/-- One more byte may end a line. -/
theorem lineEnds_concat (text : List UInt8) (b : UInt8) :
    lineEnds (text ++ [b]) = lineEnds text +
      if b = carriageReturn ∨ (b = lineFeed ∧ text.getLast? ≠ some carriageReturn) then 1 else 0 := by
  rw [lineEnds, lineEndsAfter_append, lineEnds, lineEndsAfter, lineEndsAfter, Option.or_none,
    Nat.add_zero]

/-- A byte that is neither a carriage return nor a line feed ends no line. -/
theorem lineEnds_concat_of_ne (text : List UInt8) {b : UInt8}
    (h : b ≠ carriageReturn ∧ b ≠ lineFeed) : lineEnds (text ++ [b]) = lineEnds text := by
  rw [lineEnds_concat, if_neg (by simp [h]), Nat.add_zero]

/-- A text without carriage returns and line feeds ends no line, whatever stands before it. -/
theorem lineEnds_append_of_forall {text rest : List UInt8}
    (h : ∀ b ∈ rest, b ≠ carriageReturn ∧ b ≠ lineFeed) : lineEnds (text ++ rest) = lineEnds text := by
  induction rest using List.reverseRecOn with
  | nil => rw [List.append_nil]
  | append_singleton rest b ih =>
    have hlast := h b (List.mem_append_right rest List.mem_cons_self)
    rw [← List.append_assoc, lineEnds_concat_of_ne _ hlast,
      ih fun c hc => h c (List.mem_append_left [b] hc)]

namespace Decoder

variable {κ : Type} {d e after : Decoder κ} {action : Action κ} {b : UInt8} {accepted : List UInt8}

/-- The position is that behind the accepted bytes. Inside a record the last of them was none that
ends a line. -/
structure Tracks (accepted : List UInt8) (d : Decoder κ) : Prop where
  offset : d.position.offset = accepted.length
  line : d.position.line = 1 + lineEnds accepted
  afterReturn : d.position.afterReturn = true ↔ accepted.getLast? = some IntelHex.carriageReturn
  inside : d.phase ≠ .start → accepted.getLast? ≠ some IntelHex.carriageReturn

/-- A new decoder has accepted nothing. -/
theorem tracks_fresh (consumer : Option κ) (capacity : Nat) (supported : List Int) :
    (fresh consumer capacity supported).Tracks [] :=
  ⟨rfl, rfl, ⟨nofun, nofun⟩, fun _ => nofun⟩

/-- The position can be read off. -/
theorem Tracks.of_view_eq (h : d.Tracks accepted) (hview : e.view = d.view) : e.Tracks accepted := by
  have hposition : e.position = d.position := congrArg View.position hview
  have hphase : e.phase = d.phase := congrArg View.phase hview
  exact ⟨hposition ▸ h.offset, hposition ▸ h.line, hposition ▸ h.afterReturn, hphase ▸ h.inside⟩

/-- The end of a record has no part in the position. -/
theorem Tracks.enterStart (h : d.Tracks accepted) : (d.enter .start).Tracks accepted :=
  ⟨h.offset, h.line, h.afterReturn, fun hinside => absurd rfl hinside⟩

/-- A digit ends no line. -/
theorem ne_lineEnd_of_digit {digit : Digit} (hb : Digit.ofByte? b = some digit) :
    b ≠ IntelHex.carriageReturn ∧ b ≠ IntelHex.lineFeed := by
  constructor <;> rintro rfl <;> cases hb

/-- An accepted byte is counted, and its line if it ends one. -/
theorem Moves.tracks (ht : d.Tracks accepted) (h : Moves d b after action)
    (haccept : ∀ cause, action ≠ .refuse cause) :
    Tracks (accepted ++ [b]) { after with position := after.position.advanceByte } := by
  have hlength : (accepted ++ [b]).length = accepted.length + 1 := List.length_append
  have hlast : (accepted ++ [b]).getLast? = some b := List.getLast?_concat
  have hoffset : after.position.offset + 1 = (accepted ++ [b]).length := by
    rw [h.offset, ht.offset, hlength]
  cases h with
  | invalidStart => exact absurd rfl (haccept _)
  | invalidDigit => exact absurd rfl (haccept _)
  | lineFeed hphase hb =>
    subst hb
    refine ⟨hoffset, ?_, ?_, fun hinside => absurd hphase hinside⟩
    · rw [lineEnds_concat]
      change (if d.position.afterReturn then d.position.line else d.position.line + 1) = _
      rw [ht.line]
      by_cases hreturn : d.position.afterReturn = true
      · -- the carriage return before it has already been counted
        have hjoined : ¬(IntelHex.lineFeed = IntelHex.carriageReturn ∨
            IntelHex.lineFeed = IntelHex.lineFeed ∧
              accepted.getLast? ≠ some IntelHex.carriageReturn) :=
          not_or.2 ⟨by decide, fun hother => hother.2 (ht.afterReturn.1 hreturn)⟩
        rw [if_pos hreturn, if_neg hjoined, Nat.add_zero]
      · have hother := mt ht.afterReturn.2 hreturn
        rw [if_neg hreturn, if_pos (.inr ⟨rfl, hother⟩), Nat.add_assoc]
    · rw [hlast]
      exact ⟨nofun, nofun⟩
  | carriageReturn hphase hb =>
    subst hb
    refine ⟨hoffset, ?_, ?_, fun hinside => absurd hphase hinside⟩
    · rw [lineEnds_concat, if_pos (.inl rfl), ← Nat.add_assoc, ← ht.line]
      rfl
    · rw [hlast]
      exact iff_of_true rfl rfl
  | recordMark hphase hb =>
    subst hb
    refine ⟨hoffset, ?_, ?_, fun _ => ?_⟩
    · rw [lineEnds_concat_of_ne accepted (by decide), ← ht.line]
      rfl
    · rw [hlast]
      exact ⟨nofun, nofun⟩
    · rw [hlast]
      exact nofun
  | digit field digit after action hphase hb hreads =>
    have hnone := ne_lineEnd_of_digit hb
    obtain ⟨-, -, -, hposition, -⟩ := hreads.frame
    rw [absorb_eq] at hposition
    change after.position = d.position at hposition
    have hinside : d.phase ≠ .start := by
      rw [hphase]
      exact nofun
    have hother : (accepted ++ [b]).getLast? ≠ some IntelHex.carriageReturn := by
      rw [hlast]
      exact fun hsame => hnone.1 (Option.some.inj hsame)
    refine ⟨hoffset, ?_, ?_, fun _ => hother⟩
    · rw [lineEnds_concat_of_ne accepted hnone, ← ht.line, ← hposition]
      rfl
    · refine iff_of_false ?_ hother
      change ¬after.position.afterReturn = true
      rw [hposition, ht.afterReturn]
      exact ht.inside hinside

end Decoder

namespace Run

variable {κ σ : Type} {host : Host κ σ} {r next : Run κ σ} {b : UInt8} {accepted : List UInt8}

/-- An accepted byte is counted, and its line if it ends one. -/
theorem tracks_step (hsteady : host.Steady) (ht : r.decoder.Tracks accepted)
    (hstep : r.step host b = (none, next)) : next.countByte.decoder.Tracks (accepted ++ [b]) := by
  have hmoves := Decoder.moves_advance r.decoder b
  cases Steps.of_eq hstep with
  | proceed haction => exact hmoves.tracks ht (haction ▸ nofun)
  | finish haction =>
    rw [countByte, decoder_note]
    exact hmoves.tracks ht (haction ▸ nofun)
  | accept haction =>
    rw [countByte, decoder_asked hsteady]
    exact (hmoves.tracks ht (haction ▸ nofun)).enterStart

/-- Bytes that are read to their end are counted, and their lines. -/
theorem tracks_readBytes (hsteady : host.Steady) (ht : r.decoder.Tracks accepted)
    {data : List UInt8} (hread : readBytes host data r = (none, next)) (hend : terminator ∉ data) :
    next.decoder.Tracks (accepted ++ data) := by
  induction data generalizing r accepted with
  | nil =>
    cases hread
    rwa [List.append_nil]
  | cons b data ih =>
    rw [List.mem_cons, not_or] at hend
    obtain ⟨hb, hend⟩ := hend
    rcases hstep : r.step host b with ⟨stopped, middle⟩
    cases stopped with
    | some stopped =>
      rw [readBytes_cons_of_some (Ne.symm hb) hstep] at hread
      cases hread
    | none =>
      rw [readBytes_cons_of_none (Ne.symm hb) hstep] at hread
      rw [List.append_cons]
      exact ih (tracks_step hsteady ht hstep) hread hend

/-- A failure is reported in the line where its byte stands. -/
theorem line_of_failed (hsteady : host.Steady) (ht : r.decoder.Tracks []) {data : List UInt8}
    {failure : Failure} (hread : readBytes host data r = (some (.failed (.own failure)), next)) :
    failure.line = 1 + lineEnds (data.take failure.offset) := by
  obtain ⟨first, b, rest, middle, rfl, hend, -, hfirst, hstep⟩ := exists_stop_of_readBytes hread
  have hmiddle := tracks_readBytes hsteady ht hfirst hend
  have hlast := hmiddle.of_view_eq (view_step_of_some hsteady hstep)
  rw [List.nil_append] at hlast
  have hlocated := step_failed_located hstep
  have hoffset : failure.offset = first.length := by
    rw [hlocated]
    exact hlast.offset
  rw [hoffset, List.take_left' rfl, hlocated]
  exact hlast.line

end Run

end IntelHex
