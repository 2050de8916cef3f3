import IntelHex.Proofs.Chunking
import IntelHex.Proofs.Reading
import IntelHex.Proofs.Wording

/-!
# Which byte is refused

A new decoder refuses a text exactly at the first defect behind the tokens that it takes, and it
reports and remembers the cause and the place of this defect. The consumers may refuse data blocks, but
they neither reset the decoder nor break off. A text without a defect is accepted. What is said of a
wrong checksum or of a refused block tells a number, and this is stated by its digits.
-/

namespace IntelHex

variable {κ σ : Type}

/-- The first byte of a text that cannot be accepted: behind tokens that are taken, there is a defect
for a cause, and as many bytes as the offset stand before its place. -/
def FirstDefect (host : Host κ σ) (setting : Setting κ) (world : σ) (text : List UInt8)
    (cause : Cause) (offset : Nat) : Prop :=
  ∃ (tokens : List Token) (before rest : List UInt8) (s : Standing σ) (place : Nat),
    text = before ++ rest ∧ Token.SpellsAll tokens before ∧
      Token.Taken host setting ⟨{}, world⟩ tokens s ∧ Defect host setting s rest cause place ∧
        offset = before.length + place

/-- A record stands behind tokens that are taken. -/
def FirstRecord (host : Host κ σ) (setting : Setting κ) (world : σ) (text : List UInt8)
    (record : Record) (s : Standing σ) : Prop :=
  ∃ (tokens : List Token) (before body rest : List UInt8),
    text = before ++ recordMark :: (body ++ rest) ∧ Token.SpellsAll tokens before ∧
      Token.Taken host setting ⟨{}, world⟩ tokens s ∧ Digit.Spells record.digits body

/-- What is said of a record that is no defect before its last digit, and is not taken either. -/
inductive LastDigitText (host : Host κ σ) (setting : Setting κ) (world : σ) (text : List UInt8) :
    String → Prop
  /-- The sum of all its bytes modulo 256 is told, and is not zero. -/
  | checksum {record : Record} {s : Standing σ} {high low : Digit}
      (hfirst : FirstRecord host setting world text record s) (hadmitted : record.Admitted setting)
      (hsum : (record.bytes.map UInt8.toNat).sum % 256 = 16 * high.val + low.val)
      (hsome : 16 * high.val + low.val ≠ 0) :
    LastDigitText host setting world text ("checksum mismatch: residue " ++ Digit.shown [high, low])
  /-- The absolute address of its data block is told, which the consumer refuses. -/
  | rejected {record : Record} {s : Standing σ} {consumer : κ} {digits : List Digit}
      (hfirst : FirstRecord host setting world text record s) (hvalid : record.Valid setting)
      (hcode : record.code = 0) (hconsumer : setting.consumer = some consumer)
      (hreject : (host consumer (record.block s.addressing) s.world).1.verdict = .reject)
      (hlength : digits.length = 8) (haddress : Digit.number digits = record.address s.addressing) :
    LastDigitText host setting world text ("data block rejected at " ++ Digit.shown digits)

namespace Run

variable {host : Host κ σ} {setting : Setting κ} {world : σ} {traced : Bool} {text : List UInt8}

/-- A first defect is reported and remembered. -/
theorem feed_of_firstDefect (hsteady : host.Steady) (hend : terminator ∉ text) {cause : Cause}
    {offset : Nat} (h : FirstDefect host setting world text cause offset) (traced : Bool) :
    ∃ line, ((start setting.decoder world traced).feed host text).1 =
        .ok (.refused (.own ⟨cause, offset, line⟩)) ∧
      ((start setting.decoder world traced).feed host text).2.decoder.lastError =
        some (.own ⟨cause, offset, line⟩) := by
  obtain ⟨tokens, before, rest, s, place, rfl, hspells, htaken, hdefect, rfl⟩ := h
  rw [List.mem_append, not_or] at hend
  obtain ⟨next, hnext, hread⟩ :=
    (between_start setting world traced).read_tokens hsteady htaken hspells
  obtain ⟨line, last, hstop⟩ := hnext.stop_defect hsteady hend.2 hdefect
  rw [Nat.zero_add] at hstop
  exact ⟨line, feed_of_failed ((hread rest).trans hstop)⟩

/-- What is said of a record at its last digit is the wording of a first defect. -/
theorem exists_firstDefect_of_text {message : String}
    (h : LastDigitText host setting world text message) :
    ∃ cause offset, FirstDefect host setting world text cause offset ∧
      Cause.message cause = message := by
  cases h with
  | @checksum record s high low hfirst hadmitted hsum hsome =>
    obtain ⟨tokens, before, body, rest, htext, hspells, htaken, hbody⟩ := hfirst
    rw [← record.toNat_residue] at hsum
    have hresidue : record.residue ≠ 0 := by
      intro hzero
      rw [hzero] at hsum
      exact hsome hsum.symm
    exact ⟨_, _, ⟨tokens, before, _, s, _, htext, hspells, htaken,
      .checksum hadmitted hbody hresidue, rfl⟩, Cause.message_checksumMismatch hsum⟩
  | @rejected record s consumer digits hfirst hvalid hcode hconsumer hreject hlength haddress =>
    obtain ⟨tokens, before, body, rest, htext, hspells, htaken, hbody⟩ := hfirst
    exact ⟨_, _, ⟨tokens, before, _, s, _, htext, hspells, htaken,
      .rejected hvalid hbody hconsumer hcode hreject, rfl⟩,
      Cause.message_rejected hlength haddress⟩

/-- A text is accepted, or it has a first defect. -/
theorem accepted_or_firstDefect (hsteady : host.Steady) (hcalm : host.Calm) (setting : Setting κ)
    (world : σ) (traced : Bool) (text : List UInt8) :
    ((start setting.decoder world traced).feed host text).1 = .ok .accepted ∨
      ∃ cause offset, FirstDefect host setting world text cause offset := by
  obtain ⟨tokens, before, rest, s, rfl, hspells, htaken, hrest⟩ :=
    exists_division hcalm setting ⟨{}, world⟩ text
  obtain ⟨next, hnext, hread⟩ :=
    (between_start setting world traced).read_tokens hsteady htaken hspells
  cases hrest with
  | nothing => exact .inl (congrArg Prod.fst (feed_of_read (hread [])))
  | unfinished hbody hopen =>
    obtain ⟨inside, -, hopened⟩ := hnext.read_digits host hopen hbody
    have hall := (hread _).trans (hopened [])
    rw [List.append_nil] at hall
    exact .inl (congrArg Prod.fst (feed_of_read hall))
  | defect hdefect =>
    exact .inr ⟨_, _, tokens, before, rest, s, _, rfl, hspells, htaken, hdefect, rfl⟩

/-- A new decoder refuses a text without a terminator exactly if it has a first defect, and then the
failure that it reports and remembers has the cause and the place of this defect; a wrong residue and the
address of a refused block are told in its text. Otherwise the text is accepted and no failure is
remembered. -/
theorem refused_iff_firstDefect (setting : Setting κ) (hsteady : host.Steady) (hcalm : host.Calm)
    (world : σ) (traced : Bool) (text : List UInt8) (hend : terminator ∉ text) :
    ((∃ error, ((start setting.decoder world traced).feed host text).1 = .ok (.refused error)) ↔
        ∃ cause offset, FirstDefect host setting world text cause offset) ∧
      (∀ cause offset, FirstDefect host setting world text cause offset ↔
        ∃ line, ((start setting.decoder world traced).feed host text).1 =
            .ok (.refused (.own ⟨cause, offset, line⟩)) ∧
          ((start setting.decoder world traced).feed host text).2.decoder.lastError =
            some (.own ⟨cause, offset, line⟩)) ∧
      (∀ message, LastDigitText host setting world text message →
        ∃ failure, ((start setting.decoder world traced).feed host text).1 =
            .ok (.refused (.own failure)) ∧
          failure.message = message) ∧
      ((¬∃ cause offset, FirstDefect host setting world text cause offset) →
        ((start setting.decoder world traced).feed host text).1 = .ok .accepted ∧
          ((start setting.decoder world traced).feed host text).2.decoder.lastError = none) := by
  have hreported {cause : Cause} {offset : Nat}
      (h : FirstDefect host setting world text cause offset) :=
    feed_of_firstDefect hsteady hend h traced
  have hfound := accepted_or_firstDefect hsteady hcalm setting world traced text
  generalize hfed : (start setting.decoder world traced).feed host text = fed at hreported hfound ⊢
  refine ⟨⟨?_, ?_⟩, fun cause offset => ⟨hreported, ?_⟩, fun message hmessage => ?_,
    fun hnone => ?_⟩
  · rintro ⟨error, hrefused⟩
    exact hfound.resolve_left fun haccepted => nomatch haccepted.symm.trans hrefused
  · rintro ⟨cause, offset, hfirst⟩
    obtain ⟨line, hrefused, -⟩ := hreported hfirst
    exact ⟨_, hrefused⟩
  · rintro ⟨line, hrefused, -⟩
    rcases hfound with haccepted | ⟨cause', offset', hfirst⟩
    · cases haccepted.symm.trans hrefused
    · obtain ⟨line', hrefused', -⟩ := hreported hfirst
      cases hrefused'.symm.trans hrefused
      exact hfirst
  · obtain ⟨cause, offset, hfirst, hworded⟩ := exists_firstDefect_of_text hmessage
    obtain ⟨line, hrefused, -⟩ := hreported hfirst
    exact ⟨_, hrefused, hworded⟩
  · have haccepted := hfound.resolve_right hnone
    obtain ⟨outcome, next⟩ := fed
    subst haccepted
    exact ⟨rfl, lastError_of_accepted hfed⟩

/-- A line feed and a data record that its consumer does not take: the last digit is refused, and the
address of the record is told. -/
theorem refused_iff_firstDefect_rejected :
    let host : Host Unit Nat := fun _ _ count => ({ verdict := .reject }, count + 1)
    let setting : Setting Unit := ⟨some (), 1, [0]⟩
    let text : List UInt8 :=
      [0x0A, 0x3A, 0x30, 0x31, 0x30, 0x30, 0x31, 0x30, 0x30, 0x30, 0x34, 0x31, 0x41, 0x45]
    ∃ failure : Failure, ((start setting.decoder 0 true).feed host text).1 =
        .ok (.refused (.own failure)) ∧
      ((start setting.decoder 0 true).feed host text).2.decoder.lastError = some (.own failure) ∧
        failure.cause = .rejected 0x10 ∧ failure.offset = 13 ∧
          failure.message = "data block rejected at 0x00000010" := by
  intro host setting text
  let record : Record := ⟨0, 0x10, 0, [0x41], 0xAE, by decide⟩
  have hsteady : host.Steady := fun _ _ _ => rfl
  have hcalm : host.Calm := fun _ _ _ => .inr rfl
  have hvalid : record.Valid setting := ⟨⟨by decide, by decide⟩, by decide⟩
  have hbody : Digit.Spells record.digits (text.drop 2) := by decide
  have htaken : Token.Taken host setting ⟨{}, 0⟩ [Token.lineFeed] ⟨{}, 0⟩ :=
    .cons trivial rfl .nil
  have haddress : record.address {} = 0x10 := by decide
  have hdefect : Defect host setting ⟨{}, 0⟩ (text.drop 1) (.rejected (record.address {})) 12 :=
    @Defect.rejected _ _ host setting ⟨{}, 0⟩ record _ [] () hvalid hbody rfl rfl rfl
  rw [haddress] at hdefect
  have hfeed : Token.lineFeed.Spells [0x0A] := rfl
  have hspells : Token.SpellsAll [Token.lineFeed] [0x0A] := .cons hfeed .nil
  have hfirst : FirstDefect host setting 0 text (.rejected 0x10) 13 :=
    ⟨[.lineFeed], [0x0A], text.drop 1, ⟨{}, 0⟩, 12, rfl, hspells, htaken, hdefect, rfl⟩
  have htold : LastDigitText host setting 0 text
      ("data block rejected at " ++ Digit.shown [0, 0, 0, 0, 0, 0, 1, 0]) :=
    .rejected ⟨[.lineFeed], [0x0A], text.drop 2, [], rfl, hspells, htaken, hbody⟩ hvalid rfl rfl rfl
      rfl haddress.symm
  obtain ⟨-, hreported, hworded, -⟩ :=
    refused_iff_firstDefect setting hsteady hcalm 0 true text (by decide)
  obtain ⟨line, hrefused, hremembered⟩ := (hreported (.rejected 0x10) 13).1 hfirst
  obtain ⟨failure, hagain, hmessage⟩ := hworded _ htold
  cases hagain.symm.trans hrefused
  exact ⟨_, hrefused, hremembered, rfl, rfl, hmessage⟩

end Run

end IntelHex
