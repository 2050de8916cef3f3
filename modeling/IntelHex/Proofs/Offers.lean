import IntelHex.Proofs.Journal

/-!
# How often a data block is offered

A record mark opens a record, and a call that its consumer takes closes it. A consumer that refuses a
data block leaves the record open, and is asked again by the digits that follow. So there are at most
as many calls as record marks and refused calls together, and of the calls for one record all but the
last one were refused.
-/

namespace IntelHex

namespace Decoder

variable {κ : Type} {d after : Decoder κ} {action : Action κ} {b : UInt8}

/-- Between records no consumer is due, and only a record mark leads away. -/
theorem Moves.of_start (h : Moves d b after action) (hphase : d.phase = .start) :
    (action = .proceed ∨ ∃ cause, action = .refuse cause) ∧
      (b = IntelHex.recordMark ∨ after.phase = .start) := by
  cases h with
  | lineFeed => exact ⟨.inl rfl, .inr hphase⟩
  | carriageReturn => exact ⟨.inl rfl, .inr hphase⟩
  | recordMark _ hb => exact ⟨.inl rfl, .inl hb⟩
  | invalidStart => exact ⟨.inr ⟨_, rfl⟩, .inr hphase⟩
  | invalidDigit _ hwithin => cases hphase.symm.trans hwithin
  | digit _ _ _ _ hwithin => cases hphase.symm.trans hwithin

/-- The number of records that are open: one inside a record, none between records. -/
def opened (d : Decoder κ) : Nat :=
  if d.phase = .start then 0 else 1

/-- No record is open between records. -/
theorem opened_of_start (h : d.phase = .start) : d.opened = 0 :=
  if_pos h

/-- One record is open inside a record. -/
theorem opened_of_ne_start (h : d.phase ≠ .start) : d.opened = 1 :=
  if_neg h

/-- At most one record is open. -/
theorem opened_le_one (d : Decoder κ) : d.opened ≤ 1 := by
  unfold opened
  split <;> decide

end Decoder

namespace Reading

variable {κ : Type}

/-- Entries without a record mark stand behind the same one as those before them. -/
theorem sinceMark_append (entries : List (Reading κ)) {behind : List (Reading κ)}
    (h : ∀ e ∈ behind, e.isMark = false) :
    sinceMark (entries ++ behind) = sinceMark entries ++ behind := by
  induction behind using List.reverseRecOn with
  | nil => rw [List.append_nil, List.append_nil]
  | append_singleton behind e ih =>
    rw [List.forall_mem_append, List.forall_mem_singleton] at h
    rw [← List.append_assoc, sinceMark_concat h.2, ih h.1, List.append_assoc]

end Reading

namespace Run

variable {κ σ : Type} {host : Host κ σ} {r : Run κ σ}

/-- Between records a byte makes no call, and only a record mark leads into a record. -/
theorem reading_of_start (host : Host κ σ) (b : UInt8) (hphase : r.decoder.phase = .start) :
    (r.reading host b).isCall = false ∧
      ((r.reading host b).isMark = true ∨ (r.reading host b).after.phase = .start) := by
  obtain ⟨haction, hplace⟩ := (Decoder.moves_advance r.decoder b).of_start hphase
  have hmark : b = recordMark → (r.reading host b).isMark = true :=
    fun hb => decide_eq_true ⟨hphase, hb⟩
  rw [Reading.isCall, Reading.call?]
  rcases haction with haction | ⟨cause, haction⟩
  all_goals
    rw [reading, step_eq, haction]
    exact ⟨rfl, hplace.imp_left hmark⟩

/-- A call is made inside a record, and closes it unless it is refused. -/
theorem reading_of_call {b : UInt8} (h : (r.reading host b).isCall = true) :
    r.decoder.phase ≠ .start ∧
      ((r.reading host b).isRefusedCall = true ∨ (r.reading host b).after.phase = .start) := by
  refine ⟨fun hphase => ?_, ?_⟩
  · rw [(reading_of_start host b hphase).1] at h
    cases h
  · rw [Reading.isRefusedCall, h, Bool.true_and]
    obtain ⟨⟨consumer, block⟩, hcall⟩ := Option.isSome_iff_exists.1 h
    obtain ⟨event, haction⟩ := action_of_call hcall
    rw [reading, step_eq, haction, act, deliver_eq]
    cases (host consumer block _).1.verdict with
    | accept => exact .inr rfl
    | reject => exact .inl rfl
    | fail error => exact .inl rfl
    | raise message => exact .inl rfl

end Run

/-- There are at most as many calls, with a record that is open counted as one more, as there are
record marks and refused calls together. -/
def Reading.Balanced {κ : Type} (past : List (Reading κ)) (d : Decoder κ) : Prop :=
  past.countP isCall + d.opened ≤ past.countP isMark + past.countP isRefusedCall

/-- As long as a record is open, its calls were refused. -/
def Reading.Pending {κ : Type} (past : List (Reading κ)) (d : Decoder κ) : Prop :=
  d.phase ≠ .start → ∀ e ∈ sinceMark past, e.isCall = true → e.isRefusedCall = true

/-- Every byte keeps the balance. -/
theorem Host.chronicles_balanced {κ σ : Type} (host : Host κ σ) :
    host.Chronicles Reading.Balanced where
  step past r b h := by
    unfold Reading.Balanced at h ⊢
    simp only [List.countP_append, List.countP_singleton]
    have hafter := (r.reading host b).after.opened_le_one
    by_cases hphase : r.decoder.phase = .start
    · obtain ⟨hcall, hplace⟩ := Run.reading_of_start host b hphase
      rw [Decoder.opened_of_start hphase] at h
      rw [hcall, if_neg Bool.false_ne_true]
      rcases hplace with hmark | hstart
      · rw [hmark, if_pos rfl]
        omega
      · rw [Decoder.opened_of_start hstart]
        omega
    · rw [Decoder.opened_of_ne_start hphase] at h
      cases hcall : (r.reading host b).isCall with
      | false =>
        rw [if_neg Bool.false_ne_true]
        omega
      | true =>
        rw [if_pos rfl]
        rcases (Run.reading_of_call hcall).2 with hrefused | hstart
        · rw [hrefused, if_pos rfl]
          omega
        · rw [Decoder.opened_of_start hstart]
          omega
  advanceByte _ _ h := h
  setError _ _ _ h := h

/-- A byte that leaves a record open has not made a call that was taken. -/
theorem Host.chronicles_pending {κ σ : Type} (host : Host κ σ) :
    host.Chronicles Reading.Pending where
  step past r b h hopen e he hcall := by
    by_cases hphase : r.decoder.phase = .start
    · have hmark := (Run.reading_of_start host b hphase).2.resolve_right hopen
      rw [Reading.sinceMark_concat_of_mark hmark] at he
      cases he
    · rw [Reading.sinceMark_concat (Reading.isMark_of_phase hphase), List.mem_append,
        List.mem_singleton] at he
      rcases he with hbefore | rfl
      · exact h hphase e hbefore hcall
      · exact (Run.reading_of_call hcall).2.resolve_right hopen
  advanceByte _ _ h := h
  setError _ _ _ h := h

namespace Run

variable {κ σ : Type}

/-- Whatever is fed to a new decoder, in whatever pieces and after whatever failures, and whatever its
consumers answer: the calls that they have seen are those in the journal, there are at most as many of
them as accepted record marks and refused calls together, and a call for the same record as an earlier
one comes only after the earlier one was refused. -/
theorem calls_le_marks (host : Host κ σ) (setting : Setting κ) (world : σ) (traced : Bool)
    (inputs : List (List UInt8)) :
    let r := start setting.decoder world traced
    (r.feedAll host inputs).world =
        host.served ((r.journal host inputs).filterMap Reading.call?) world ∧
      (r.journal host inputs).countP Reading.isCall ≤
        (r.journal host inputs).countP Reading.isMark +
          (r.journal host inputs).countP Reading.isRefusedCall ∧
      ∀ earlier first between second later,
        r.journal host inputs = earlier ++ first :: (between ++ second :: later) →
        first.isCall = true → second.isCall = true → (∀ e ∈ between, e.isMark = false) →
        first.isRefusedCall = true := by
  intro r
  refine ⟨world_feedAll host inputs r, ?_, ?_⟩
  · have hbalanced : Reading.Balanced [] r.decoder := Nat.le_refl 0
    have hlast := (host.chronicles_balanced.journal hbalanced inputs).1
    exact Nat.le_trans (Nat.le_add_right _ _) hlast
  · intro earlier first between second later hsplit hfirst hsecond hunmarked
    have hpending : Reading.Pending [] r.decoder := fun hopen => absurd rfl hopen
    have hentries := (host.chronicles_pending.journal hpending inputs).2
    obtain ⟨caller, hcaller, -⟩ := hentries earlier first _ hsplit
    rw [List.append_cons, ← List.append_assoc] at hsplit
    obtain ⟨again, hagain, hholds⟩ := hentries _ second later hsplit
    rw [hagain] at hsecond
    have hinside : first.isMark = false := by
      rw [hcaller] at hfirst ⊢
      exact Reading.isMark_of_phase (reading_of_call hfirst).1
    have hbehind : ∀ e ∈ first :: between, e.isMark = false :=
      List.forall_mem_cons.2 ⟨hinside, hunmarked⟩
    refine hholds (reading_of_call hsecond).1 first ?_ hfirst
    rw [List.nil_append, List.append_assoc, List.singleton_append,
      Reading.sinceMark_append earlier hbehind]
    exact List.mem_append_right _ List.mem_cons_self

/-- An empty data record that its consumer refuses, and one more digit, on which the consumer is asked
again: the first of the two calls was refused. -/
theorem calls_le_marks_asked_again :
    let host : Host Unit Nat := fun _ _ count =>
      ({ verdict := if count = 0 then .reject else .accept }, count + 1)
    let record : List UInt8 :=
      [0x3A, 0x30, 0x30, 0x30, 0x30, 0x30, 0x30, 0x30, 0x30, 0x30, 0x30]
    let entries := (start (Decoder.fresh (some ()) 255 [0]) 0 false).journal host [record, [0x30]]
    ∃ first second, entries = entries.take 10 ++ first :: ([] ++ second :: []) ∧
      first.isCall = true ∧ second.isCall = true ∧ first.isRefusedCall = true := by
  intro host record entries
  have hlength : entries.length = 12 := rfl
  have hsplit : entries = entries.take 10 ++ entries[10] :: ([] ++ entries[11] :: []) := rfl
  have hfirst : entries[10].isCall = true := rfl
  have hsecond : entries[11].isCall = true := rfl
  obtain ⟨-, -, hrefused⟩ := calls_le_marks host ⟨some (), 255, [0]⟩ 0 false [record, [0x30]]
  exact ⟨entries[10], entries[11], hsplit, hfirst, hsecond,
    hrefused (entries.take 10) _ [] _ [] hsplit hfirst hsecond fun _ h => nomatch h⟩

/-- A consumer that refuses an empty data record and takes it on the next digit: one record mark, and
two calls with the same data block. The record is closed by its eleventh digit. -/
theorem two_calls_one_mark :
    let host : Host Unit (List Delivery) := fun _ block calls =>
      ({ verdict := if calls = [] then .reject else .accept }, calls ++ [block])
    let record : List UInt8 :=
      [0x3A, 0x30, 0x30, 0x30, 0x30, 0x30, 0x30, 0x30, 0x30, 0x30, 0x30]
    let r := start (Decoder.fresh (some ()) 255 [0]) [] false
    ¬(r.journal host [record, [0x30]]).countP Reading.isCall ≤
        (r.journal host [record, [0x30]]).countP Reading.isMark ∧
      (r.feedAll host [record, [0x30]]).world = [⟨0, [], 0⟩, ⟨0, [], 0⟩] ∧
      (r.feedAll host [record, [0x30]]).decoder.phase = .start := by
  decide

end Run

end IntelHex
