import Mathlib.Data.List.DropRight
import IntelHex.Proofs.Language

/-!
# The journal of a run

Every byte that is read leaves an entry: the decoder before and after it, what it asked for, and
whether it stopped the run. The journal of some feeds in a row goes on after a failure, as feeding
does. A relation between the entries so far and the decoder that holds at first and is kept by every
step holds at every entry; the induction over bytes and feeds is made here once. The calls in the
journal are those that the consumers have seen.
-/

namespace IntelHex

/-- One byte that has been read. -/
structure Reading (κ : Type) where
  /-- The byte. -/
  byte : UInt8
  /-- The decoder that reads it. -/
  before : Decoder κ
  /-- What the byte asks for. -/
  action : Action κ
  /-- Why it is the last one of its feed, if it is. -/
  stop : Option Stop
  /-- The decoder after its action. -/
  after : Decoder κ
deriving DecidableEq

namespace Reading

variable {κ : Type}

/-- Whether the byte begins a record. -/
def isMark (e : Reading κ) : Bool :=
  e.before.phase = .start ∧ e.byte = recordMark

/-- The consumer that is called and the data block that it is given. -/
def call? (e : Reading κ) : Option (κ × Delivery) :=
  match e.action with
  | .deliver _ consumer block => some (consumer, block)
  | _ => none

/-- Whether a consumer is called. -/
def isCall (e : Reading κ) : Bool :=
  e.call?.isSome

/-- Whether a consumer is called and does not take the data block: it says so or breaks off. -/
def isRefusedCall (e : Reading κ) : Bool :=
  e.isCall && e.stop.isSome

/-- The entries behind the last record mark. -/
def sinceMark (entries : List (Reading κ)) : List (Reading κ) :=
  entries.rtakeWhile fun e => !e.isMark

/-- The digits among the bytes read. -/
def digits (entries : List (Reading κ)) : List Digit :=
  entries.filterMap fun e => Digit.ofByte? e.byte

variable {entries : List (Reading κ)} {e : Reading κ}

/-- Nothing stands behind a record mark. -/
theorem sinceMark_concat_of_mark (h : e.isMark = true) : sinceMark (entries ++ [e]) = [] := by
  rw [sinceMark, List.rtakeWhile_concat_neg _ _ _ (by simp [h])]

/-- Any other byte stands behind the same record mark as the bytes before it. -/
theorem sinceMark_concat (h : e.isMark = false) :
    sinceMark (entries ++ [e]) = sinceMark entries ++ [e] := by
  rw [sinceMark, List.rtakeWhile_concat_pos _ _ _ (by simp [h]), sinceMark]

/-- Inside a record no byte begins one. -/
theorem isMark_of_phase (h : e.before.phase ≠ .start) : e.isMark = false :=
  decide_eq_false fun hmark => h hmark.1

/-- A digit is read behind those before it. -/
theorem digits_concat_of_digit {digit : Digit} (h : Digit.ofByte? e.byte = some digit) :
    digits (entries ++ [e]) = digits entries ++ [digit] := by
  rw [digits, List.filterMap_append, List.filterMap_cons, h, List.filterMap_nil, digits]

/-- A byte that is no digit is not read as one. -/
theorem digits_concat_of_none (h : Digit.ofByte? e.byte = none) :
    digits (entries ++ [e]) = digits entries := by
  rw [digits, List.filterMap_append, List.filterMap_cons, h, List.filterMap_nil, List.append_nil,
    digits]

/-- The calls of some entries begin with that of the first one, if it makes one. -/
theorem calls_cons (e : Reading κ) (entries : List (Reading κ)) :
    (e :: entries).filterMap call? = e.call?.toList ++ entries.filterMap call? := by
  rw [List.filterMap_cons]
  cases e.call? <;> rfl

end Reading

/-- Calls in a row are served one after the other. -/
theorem Host.served_append {κ σ : Type} (host : Host κ σ) (first second : List (κ × Delivery))
    (world : σ) : host.served (first ++ second) world = host.served second (host.served first world) :=
  List.foldl_append

namespace Run

variable {κ σ : Type}

/-- The entry of a byte. -/
def reading (host : Host κ σ) (b : UInt8) (r : Run κ σ) : Reading κ where
  byte := b
  before := r.decoder
  action := (r.decoder.advance b).2
  stop := (r.step host b).1
  after := (r.step host b).2.decoder

/-- The entries of the bytes that are read up to the end, a terminator, or the first byte that stops
the run. -/
def readings (host : Host κ σ) : List UInt8 → Run κ σ → List (Reading κ)
  | [], _ => []
  | b :: rest, r =>
    if b = terminator then []
    else r.reading host b ::
      match r.step host b with
      | (none, next) => readings host rest next.countByte
      | (some _, _) => []

/-- Feeds one input after the other, whatever becomes of the ones before. -/
def feedAll (host : Host κ σ) : List (List UInt8) → Run κ σ → Run κ σ
  | [], r => r
  | data :: inputs, r => feedAll host inputs (r.feed host data).2

/-- The entries of inputs that are fed one after the other. -/
def journal (host : Host κ σ) : List (List UInt8) → Run κ σ → List (Reading κ)
  | [], _ => []
  | data :: inputs, r =>
    readings host data (r.setError none) ++ journal host inputs (r.feed host data).2

variable {host : Host κ σ} {r : Run κ σ} {b : UInt8}

/-- A terminator leaves no entry. -/
theorem readings_terminator (rest : List UInt8) (r : Run κ σ) :
    readings host (terminator :: rest) r = [] := by
  rw [readings, if_pos rfl]

/-- The entry of an accepted byte comes before those of the rest. -/
theorem readings_cons_of_none {next : Run κ σ} (hb : b ≠ terminator)
    (hstep : r.step host b = (none, next)) (rest : List UInt8) :
    readings host (b :: rest) r = r.reading host b :: readings host rest next.countByte := by
  rw [readings, if_neg hb, hstep]

/-- The entry of a byte that stops the run is the last one. -/
theorem readings_cons_of_some {next : Run κ σ} {stop : Stop} (hb : b ≠ terminator)
    (hstep : r.step host b = (some stop, next)) (rest : List UInt8) :
    readings host (b :: rest) r = [r.reading host b] := by
  rw [readings, if_neg hb, hstep]

/-- A call is made where a data block is due. -/
theorem action_of_call {consumer : κ} {block : Delivery}
    (h : (r.reading host b).call? = some (consumer, block)) :
    ∃ event, (r.decoder.advance b).2 = .deliver event consumer block := by
  rw [Reading.call?, reading] at h
  cases haction : (r.decoder.advance b).2 with
  | deliver event asked delivered =>
    rw [haction] at h
    cases h
    exact ⟨event, rfl⟩
  | proceed | refuse cause | overrun | finish event =>
    rw [haction] at h
    cases h

/-- A byte makes the call that its entry says. -/
theorem world_step (host : Host κ σ) (b : UInt8) (r : Run κ σ) :
    (r.step host b).2.world = host.served (r.reading host b).call?.toList r.world := by
  rw [step_eq, Reading.call?, reading]
  cases (r.decoder.advance b).2 with
  | proceed => rfl
  | refuse cause => rfl
  | overrun => rfl
  | finish event => exact world_note _ event
  | deliver event consumer block =>
    rw [act, deliver_eq, world_note]
    cases (host consumer block r.world).1.verdict <;> rfl

/-- The bytes that are read make the calls that their entries say. -/
theorem world_readBytes (host : Host κ σ) (data : List UInt8) (r : Run κ σ) :
    (readBytes host data r).2.world =
      host.served ((readings host data r).filterMap Reading.call?) r.world := by
  induction data generalizing r with
  | nil => rfl
  | cons b data ih =>
    by_cases hb : b = terminator
    · subst hb
      rw [readBytes_terminator, readings_terminator]
      rfl
    · have hworld := world_step host b r
      rcases hstep : r.step host b with ⟨stop, next⟩
      rw [hstep] at hworld
      cases stop with
      | none =>
        rw [readBytes_cons_of_none hb hstep, readings_cons_of_none hb hstep, ih,
          Reading.calls_cons, Host.served_append, ← hworld]
        rfl
      | some stop =>
        rw [readBytes_cons_of_some hb hstep, readings_cons_of_some hb hstep, hworld,
          Reading.calls_cons, List.filterMap_nil, List.append_nil]

/-- The verdict of feeding makes no call. -/
@[simp] theorem world_conclude (read : Option Stop × Run κ σ) :
    (conclude read).2.world = read.2.world := by
  rcases read with ⟨_ | (failure | message | _), r⟩
  · rfl
  · exact world_note _ _
  · rfl
  · rfl

/-- The consumers have seen the calls in the journal, and no other. -/
theorem world_feedAll (host : Host κ σ) (inputs : List (List UInt8)) (r : Run κ σ) :
    (r.feedAll host inputs).world =
      host.served ((r.journal host inputs).filterMap Reading.call?) r.world := by
  induction inputs generalizing r with
  | nil => rfl
  | cons data inputs ih =>
    rw [feedAll, ih, journal, List.filterMap_append, Host.served_append]
    congr 1
    rw [feed_eq_conclude, world_conclude, world_readBytes]
    rfl

end Run

/-- A relation between the entries so far and the decoder that every byte keeps. -/
structure Host.Chronicles {κ σ : Type} (host : Host κ σ)
    (Q : List (Reading κ) → Decoder κ → Prop) : Prop where
  step : ∀ past (r : Run κ σ) b, Q past r.decoder →
    Q (past ++ [r.reading host b]) (r.reading host b).after
  advanceByte : ∀ past d, Q past d → Q past { d with position := d.position.advanceByte }
  setError : ∀ past d error, Q past d → Q past { d with lastError := error }

/-- An entry of two lists in a row stands in the first one, or in the second one behind it. -/
theorem Reading.of_append_eq {κ : Type} {first second earlier later : List (Reading κ)}
    {e : Reading κ} (h : first ++ second = earlier ++ e :: later) :
    (∃ rest, first = earlier ++ e :: rest) ∨
      ∃ head, earlier = first ++ head ∧ second = head ++ e :: later := by
  rcases List.append_eq_append_iff.1 h with ⟨head, hearlier, hsecond⟩ | ⟨tail, hfirst, hlater⟩
  · exact .inr ⟨head, hearlier, hsecond⟩
  · cases tail with
    | nil => exact .inr ⟨[], by rw [hfirst, List.append_nil, List.append_nil], hlater.symm⟩
    | cons found rest =>
      obtain ⟨rfl, -⟩ := List.cons.inj hlater
      exact .inl ⟨rest, hfirst⟩

namespace Host.Chronicles

variable {κ σ : Type} {host : Host κ σ} {Q : List (Reading κ) → Decoder κ → Prop} {r : Run κ σ}
  {past : List (Reading κ)}

/-- The relation holds at every byte that is read and behind all of them. -/
theorem readings (hQ : host.Chronicles Q) (h : Q past r.decoder) (data : List UInt8) :
    Q (past ++ r.readings host data) (r.readBytes host data).2.decoder ∧
      ∀ earlier e later, r.readings host data = earlier ++ e :: later →
        ∃ reader : Run κ σ, e = reader.reading host e.byte ∧ Q (past ++ earlier) reader.decoder := by
  induction data generalizing past r with
  | nil =>
    rw [Run.readings, List.append_nil]
    exact ⟨h, fun earlier e later hsplit => by simp at hsplit⟩
  | cons b data ih =>
    by_cases hb : b = terminator
    · subst hb
      rw [Run.readings_terminator, Run.readBytes_terminator, List.append_nil]
      exact ⟨h, fun earlier e later hsplit => by simp at hsplit⟩
    · have hstepped : Q (past ++ [r.reading host b]) (r.step host b).2.decoder :=
        hQ.step past r b h
      -- The first entry, and one of the entries behind it if the relation holds at these.
      have hentries (rest : List (Reading κ)) (hrest : ∀ earlier e later,
          rest = earlier ++ e :: later → ∃ reader : Run κ σ, e = reader.reading host e.byte ∧
            Q (past ++ [r.reading host b] ++ earlier) reader.decoder) :
          ∀ earlier e later, r.reading host b :: rest = earlier ++ e :: later →
            ∃ reader : Run κ σ, e = reader.reading host e.byte ∧ Q (past ++ earlier) reader.decoder := by
        intro earlier e later hsplit
        cases earlier with
        | nil =>
          obtain ⟨rfl, -⟩ := List.cons.inj hsplit
          exact ⟨r, rfl, by rwa [List.append_nil]⟩
        | cons first earlier =>
          obtain ⟨rfl, hlater⟩ := List.cons.inj hsplit
          obtain ⟨reader, hentry, hholds⟩ := hrest earlier e later hlater
          exact ⟨reader, hentry, by rwa [List.append_cons]⟩
      rcases hstep : r.step host b with ⟨stop, next⟩
      rw [hstep] at hstepped
      cases stop with
      | none =>
        obtain ⟨hlast, hrest⟩ := ih (r := next.countByte) (hQ.advanceByte _ _ hstepped)
        rw [Run.readings_cons_of_none hb hstep, Run.readBytes_cons_of_none hb hstep,
          List.append_cons]
        exact ⟨hlast, hentries _ hrest⟩
      | some stop =>
        rw [Run.readings_cons_of_some hb hstep, Run.readBytes_cons_of_some hb hstep]
        exact ⟨hstepped, hentries [] fun earlier e later hsplit => by simp at hsplit⟩

/-- The relation holds at every entry of a journal and behind all of them. -/
theorem journal (hQ : host.Chronicles Q) (h : Q past r.decoder) (inputs : List (List UInt8)) :
    Q (past ++ r.journal host inputs) (r.feedAll host inputs).decoder ∧
      ∀ earlier e later, r.journal host inputs = earlier ++ e :: later →
        ∃ reader : Run κ σ, e = reader.reading host e.byte ∧ Q (past ++ earlier) reader.decoder := by
  induction inputs generalizing past r with
  | nil =>
    rw [Run.journal, List.append_nil]
    exact ⟨h, fun earlier e later hsplit => by simp at hsplit⟩
  | cons data inputs ih =>
    obtain ⟨hread, hfirst⟩ := hQ.readings (r := r.setError none) (hQ.setError _ _ none h) data
    have hfed : Q (past ++ (r.setError none).readings host data) (r.feed host data).2.decoder := by
      rw [Run.feed_eq_conclude]
      rcases hlast : (r.setError none).readBytes host data with ⟨_ | (failure | message | _), next⟩
        <;> rw [hlast] at hread
      · exact hread
      · rw [Run.conclude, Run.decoder_note]
        exact hQ.setError _ _ _ hread
      · exact hread
      · exact hread
    obtain ⟨hlast, hrest⟩ := ih hfed
    rw [Run.journal, Run.feedAll]
    refine ⟨by rwa [← List.append_assoc], fun earlier e later hsplit => ?_⟩
    rcases Reading.of_append_eq hsplit with ⟨rest, hinside⟩ | ⟨head, rfl, hbehind⟩
    · exact hfirst earlier e rest hinside
    · rw [← List.append_assoc]
      exact hrest head e later hbehind

end Host.Chronicles

end IntelHex
