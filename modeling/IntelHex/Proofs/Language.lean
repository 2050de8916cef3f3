import IntelHex.Proofs.Reading

/-!
# The language of a decoder

A new decoder whose consumers take every data block accepts a text and ends between two records
exactly if the text is made of valid tokens. In that case its consumer is called once for each record
of type 0, in order, with the address that the records before it give.
-/

namespace IntelHex

variable {κ σ : Type}

/-- Consumers that take every data block and do not reset the decoder. -/
def Host.Accepting (host : Host κ σ) : Prop :=
  ∀ consumer block world, (host consumer block world).1 = { restart := false, verdict := .accept }

/-- The same consumers, with a record of their calls. -/
def Host.recorded (host : Host κ σ) : Host κ (σ × List (κ × Delivery)) :=
  fun consumer block world =>
    ((host consumer block world.1).1,
      ((host consumer block world.1).2, world.2 ++ [(consumer, block)]))

/-- The state of the consumers after some calls. -/
def Host.served (host : Host κ σ) (calls : List (κ × Delivery)) (world : σ) : σ :=
  calls.foldl (fun world call => (host call.1 call.2 world).2) world

/-- The calls that tokens in a row make: one for each data block if there is a consumer. -/
def Token.calls (consumer : Option κ) (a : Addressing) (tokens : List Token) : List (κ × Delivery) :=
  match consumer with
  | some consumer => (Token.blocks a tokens).map fun block => (consumer, block)
  | none => []

variable {host : Host κ σ} {setting : Setting κ} {s t : Standing σ} {tokens : List Token}

/-- Consumers that take everything do not reset the decoder. -/
theorem Host.Accepting.steady (h : host.Accepting) : host.Steady := by
  intro consumer block world
  rw [h]

/-- Consumers that take everything do not break off. -/
theorem Host.Accepting.calm (h : host.Accepting) : host.Calm := by
  intro consumer block world
  rw [h]
  exact .inl rfl

/-- A record of the calls does not change the answers. -/
theorem Host.Accepting.recorded (h : host.Accepting) : host.recorded.Accepting :=
  fun consumer block world => h consumer block world.1

/-- Recorded consumers come to the same state, and the record grows by the calls. -/
theorem Host.served_recorded (host : Host κ σ) (calls : List (κ × Delivery)) (world : σ)
    (before : List (κ × Delivery)) :
    host.recorded.served calls (world, before) = (host.served calls world, before ++ calls) := by
  induction calls generalizing world before with
  | nil => rw [List.append_nil]; rfl
  | cons call calls ih =>
    have hnext : host.recorded.served (call :: calls) (world, before) =
        host.recorded.served calls ((host call.1 call.2 world).2, before ++ [call]) := rfl
    rw [hnext, ih, List.append_assoc]
    rfl

namespace Token

/-- A token comes to the addressing that it sets and to the consumers after its calls. -/
theorem enact_snd (host : Host κ σ) (consumer : Option κ) (s : Standing σ) (token : Token) :
    (token.enact host consumer s).2 =
      ⟨token.extend s.addressing, host.served (calls consumer s.addressing [token]) s.world⟩ := by
  unfold enact
  cases consumer with
  | none => rfl
  | some consumer =>
    simp only [calls, blocks, List.append_nil]
    cases token.block? s.addressing with
    | none => rfl
    | some block => rfl

/-- The calls of a token come before those of the tokens after it. -/
theorem calls_cons (consumer : Option κ) (a : Addressing) (token : Token) (tokens : List Token) :
    calls consumer a (token :: tokens) =
      calls consumer a [token] ++ calls consumer (token.extend a) tokens := by
  cases consumer with
  | none => rfl
  | some consumer => simp only [calls, blocks, List.map_append, List.append_nil]

/-- Tokens that are taken are valid. -/
theorem Taken.valid (h : Taken host setting s tokens t) : ∀ token ∈ tokens, token.Valid setting := by
  induction h with
  | nil => exact fun _ hmem => absurd hmem List.not_mem_nil
  | cons hvalid _ _ ih => exact List.forall_mem_cons.2 ⟨hvalid, ih⟩

/-- Valid tokens are taken by consumers that take everything, who are called as often as they have
data blocks. -/
theorem exists_taken (haccepts : host.Accepting) (hvalid : ∀ token ∈ tokens, token.Valid setting)
    (s : Standing σ) :
    ∃ t, Taken host setting s tokens t ∧
      t.world = host.served (calls setting.consumer s.addressing tokens) s.world := by
  induction tokens generalizing s with
  | nil =>
    refine ⟨s, .nil, ?_⟩
    cases setting.consumer <;> rfl
  | cons token tokens ih =>
    obtain ⟨hfirst, hlater⟩ := List.forall_mem_cons.1 hvalid
    have hverdict : (token.enact host setting.consumer s).1 = .accept := by
      unfold enact
      split
      · rw [haccepts]
      · rfl
    obtain ⟨t, htaken, hworld⟩ := ih hlater (token.enact host setting.consumer s).2
    refine ⟨t, .cons hfirst (Prod.ext hverdict rfl) htaken, ?_⟩
    rw [hworld, enact_snd, calls_cons setting.consumer s.addressing token tokens]
    exact (List.foldl_append).symm

end Token

namespace Run

/-- Valid tokens are accepted, up to the place between records behind them. -/
theorem feed_tokens (haccepts : host.Accepting) (hvalid : ∀ token ∈ tokens, token.Valid setting)
    {text : List UInt8} (hspells : Token.SpellsAll tokens text) (world : σ) (traced : Bool) :
    ∃ next : Run κ σ, (start setting.decoder world traced).feed host text = (.ok .accepted, next) ∧
      next.decoder.phase = .start ∧
        next.world = host.served (Token.calls setting.consumer {} tokens) world := by
  obtain ⟨t, htaken, hworld⟩ := Token.exists_taken haccepts hvalid ⟨{}, world⟩
  obtain ⟨next, hnext, hread⟩ :=
    (between_start setting world traced).read_tokens haccepts.steady htaken hspells
  have hall := hread []
  rw [List.append_nil] at hall
  exact ⟨next, feed_of_read hall, hnext.phase, hnext.world.trans hworld⟩

/-- A text that is accepted up to a place between records is made of valid tokens. -/
theorem exists_tokens_of_feed (hsteady : host.Steady) (hcalm : host.Calm) {world : σ} {traced : Bool}
    {text : List UInt8} (hend : terminator ∉ text)
    (haccepted : ((start setting.decoder world traced).feed host text).1 = .ok .accepted)
    (hphase : ((start setting.decoder world traced).feed host text).2.decoder.phase = .start) :
    ∃ tokens : List Token, (∀ token ∈ tokens, token.Valid setting) ∧
      Token.SpellsAll tokens text := by
  obtain ⟨tokens, before, rest, t, rfl, hspells, htaken, hrest⟩ :=
    exists_division hcalm setting ⟨{}, world⟩ text
  obtain ⟨next, hnext, hread⟩ :=
    (between_start setting world traced).read_tokens hsteady htaken hspells
  cases hrest with
  | nothing =>
    rw [List.append_nil]
    exact ⟨tokens, htaken.valid, hspells⟩
  | @unfinished digits body hbody hopen =>
    obtain ⟨inside, hinside, hopened⟩ := hnext.read_digits host hopen hbody
    have hall := (hread _).trans (hopened [])
    rw [List.append_nil] at hall
    rw [feed_of_read hall] at hphase
    exact absurd hphase hinside.midway.phase_ne_start
  | defect hdefect =>
    rw [List.mem_append, not_or] at hend
    obtain ⟨line, last, hstop⟩ := hnext.stop_defect hsteady hend.2 hdefect
    have hrefused := (feed_of_failed ((hread _).trans hstop)).1
    cases haccepted.symm.trans hrefused

/-- A new decoder with consumers that take everything accepts a text without a terminator, and ends
between two records, exactly if the text is made of valid tokens. Then its consumer is called, in
order, with the data blocks of the records of type 0 and nothing else. -/
theorem accepted_iff_tokens (setting : Setting κ) (haccepts : host.Accepting) (world : σ)
    (traced : Bool) (text : List UInt8) (hend : terminator ∉ text) :
    (((start setting.decoder world traced).feed host text).1 = .ok .accepted ∧
        ((start setting.decoder world traced).feed host text).2.decoder.phase = .start ↔
      ∃ tokens : List Token, (∀ token ∈ tokens, token.Valid setting) ∧
        Token.SpellsAll tokens text) ∧
      ∀ tokens : List Token, (∀ token ∈ tokens, token.Valid setting) →
        Token.SpellsAll tokens text →
        ((start setting.decoder (world, []) traced).feed host.recorded text).2.world =
          (((start setting.decoder world traced).feed host text).2.world,
            Token.calls setting.consumer {} tokens) := by
  refine ⟨⟨fun h => exists_tokens_of_feed haccepts.steady haccepts.calm hend h.1 h.2, ?_⟩, ?_⟩
  · rintro ⟨tokens, hvalid, hspells⟩
    obtain ⟨next, hfeed, hphase, -⟩ := feed_tokens haccepts hvalid hspells world traced
    rw [hfeed]
    exact ⟨rfl, hphase⟩
  · intro tokens hvalid hspells
    obtain ⟨next, hfeed, -, hworld⟩ := feed_tokens haccepts hvalid hspells world traced
    obtain ⟨recorded, hrecorded, -, hcalls⟩ :=
      feed_tokens haccepts.recorded hvalid hspells (world, []) traced
    rw [hfeed, hrecorded, hcalls, hworld, Host.served_recorded, List.nil_append]

/-- A type 4 record and a data record without a line end between them, in mixed letter case: one call
under the upper half of the address. -/
theorem accepted_iff_tokens_two_records :
    let host : Host Unit Nat := fun _ _ count => ({ verdict := .accept }, count + 1)
    let setting : Setting Unit := ⟨some (), 16, [0, 4]⟩
    let text : List UInt8 :=
      [0x3A, 0x30, 0x32, 0x30, 0x30, 0x30, 0x30, 0x30, 0x34, 0x30, 0x30, 0x30, 0x31, 0x66, 0x39,
        0x3A, 0x30, 0x31, 0x30, 0x30, 0x31, 0x30, 0x30, 0x30, 0x34, 0x31, 0x41, 0x65]
    ((start setting.decoder 0 false).feed host text).1 = .ok .accepted ∧
      ((start setting.decoder (0, []) false).feed host.recorded text).2.world =
        (((start setting.decoder 0 false).feed host text).2.world, [((), ⟨0x10010, [0x41], 1⟩)]) := by
  intro host setting text
  let upper : Record := ⟨0, 0, 4, [0, 1], 0xF9, by decide⟩
  let lower : Record := ⟨0, 0x10, 0, [0x41], 0xAE, by decide⟩
  have haccepts : host.Accepting := fun _ _ _ => rfl
  have hvalid : ∀ token ∈ [Token.record upper, Token.record lower], token.Valid setting := by
    refine List.forall_mem_cons.2 ⟨?_, List.forall_mem_cons.2 ⟨?_, fun _ h => nomatch h⟩⟩
    · exact ⟨⟨by decide, by decide⟩, by decide⟩
    · exact ⟨⟨by decide, by decide⟩, by decide⟩
  have hupper : (Token.record upper).Spells (text.take 15) := ⟨(text.take 15).tail, rfl, by decide⟩
  have hlower : (Token.record lower).Spells (text.drop 15) := ⟨(text.drop 15).tail, rfl, by decide⟩
  have hspells : Token.SpellsAll [Token.record upper, Token.record lower] text :=
    .cons hupper (.cons hlower .nil)
  have hcall : Token.calls setting.consumer {} [Token.record upper, Token.record lower] =
      [((), ⟨0x10010, [0x41], 1⟩)] := by decide
  obtain ⟨hlanguage, hcalls⟩ :=
    accepted_iff_tokens setting haccepts 0 false text (by decide)
  rw [← hcall]
  exact ⟨(hlanguage.2 ⟨_, hvalid, hspells⟩).1, hcalls _ hvalid hspells⟩

end Run

end IntelHex
