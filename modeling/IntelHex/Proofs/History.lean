import IntelHex.Proofs.Coupling
import IntelHex.Proofs.Journal

/-!
# The history of a run

Operations in a row leave the entries of all the bytes that they read: a feed those of its bytes, a
source those of each chunk that is fed, and the other operations none. A relation between the entries
so far and the run that every feed keeps is kept by any operations, if it is kept by the resets and the
registrations among them, too.
-/

namespace IntelHex

namespace Run

variable {κ σ : Type}

/-- The entries of a feed. -/
def feedReadings (host : Host κ σ) (data : List UInt8) (r : Run κ σ) : List (Reading κ) :=
  (r.setError none).readings host data

/-- The entries of the chunks that are fed up to the end, a chunk with a terminator, or a failure. -/
def drainReadings (host : Host κ σ) (size : Nat) (source : Source) (r : Run κ σ) :
    List (Reading κ) :=
  if _h : (source.read size).1 = [] then []
  else r.feedReadings host (source.read size).1 ++
    match r.feed host (source.read size).1 with
    | (.ok .accepted, next) =>
      if terminator ∈ (source.read size).1 then []
      else next.drainReadings host size (source.read size).2
    | _ => []
termination_by source.left
decreasing_by exact Source.left_read_lt _h

/-- The entries of an operation. -/
def operationReadings (host : Host κ σ) (op : Operation κ) (r : Run κ σ) : List (Reading κ) :=
  match op with
  | .feed data count =>
    match selected? data count with
    | some bytes => r.feedReadings host bytes
    | none => []
  | .stream size source =>
    if size ≤ 0 then []
    else match source.refusal? size.toNat with
      | some _ => []
      | none => r.drainReadings host size.toNat source
  | .reset | .register _ | .address _ => []

/-- The entries of operations that are performed one after the other. -/
def history (host : Host κ σ) : List (Operation κ) → Run κ σ → List (Reading κ)
  | [], _ => []
  | op :: rest, r => r.operationReadings host op ++ history host rest (r.perform host op).2

section Growing

variable {host : Host κ σ} {Q : List (Reading κ) → Run κ σ → Prop} {past : List (Reading κ)}
  {r : Run κ σ}
  (hfeed : ∀ past (r : Run κ σ) data, Q past r →
    Q (past ++ r.feedReadings host data) (r.feed host data).2)
include hfeed

/-- What every feed keeps is kept while a source is fed chunk by chunk. -/
theorem drain_grows (size : Nat) (source : Source) (h : Q past r) :
    Q (past ++ r.drainReadings host size source) (r.drain host size source).2.1 := by
  fun_induction drain host size source r generalizing past with
  | case1 source r hempty =>
    rw [drainReadings, dif_pos hempty, List.append_nil]
    exact h
  | case2 source r hchunk next heq hend =>
    have hfed := hfeed past r (source.read size).1 h
    rw [drainReadings, dif_neg hchunk]
    simp only [heq, if_pos hend, List.append_nil] at hfed ⊢
    exact hfed
  | case3 source r hchunk next heq hend ih =>
    have hfed := hfeed past r (source.read size).1 h
    rw [drainReadings, dif_neg hchunk]
    simp only [heq, if_neg hend, ← List.append_assoc] at hfed ⊢
    exact ih hfed
  | case4 source r hchunk stopped next hstopped heq =>
    have hfed := hfeed past r (source.read size).1 h
    rw [drainReadings, dif_neg hchunk]
    rw [heq] at hfed ⊢
    rcases stopped with abort | (_ | failure)
    · simpa only [List.append_nil] using hfed
    · exact (hstopped rfl).elim
    · simpa only [List.append_nil] using hfed

/-- What every feed keeps is kept by an operation, if a reset or a registration keeps it as well. -/
theorem perform_grows {op : Operation κ}
    (hregister : ∀ consumer, op = .register consumer → ∀ past (r : Run κ σ), Q past r →
      Q past { r with decoder := r.decoder.register consumer })
    (hreset : op = .reset → ∀ past (r : Run κ σ), Q past r →
      Q past { r with decoder := r.decoder.reset })
    (h : Q past r) : Q (past ++ r.operationReadings host op) (r.perform host op).2 := by
  cases op with
  | feed data count =>
    change Q (past ++ r.operationReadings host (.feed data count)) (r.feedCounted host data count).2
    rw [operationReadings]
    cases hbytes : selected? data count with
    | none => simpa only [feedCounted_of_unselected hbytes, List.append_nil] using h
    | some bytes =>
      rw [feedCounted_of_selected hbytes]
      exact hfeed past r bytes h
  | stream size source =>
    change Q (past ++ r.operationReadings host (.stream size source))
      (r.feedSource host size source).2.1
    rw [operationReadings, feedSource]
    by_cases hsize : size ≤ 0
    · simpa only [if_pos hsize, List.append_nil] using h
    · simp only [if_neg hsize]
      cases source.refusal? size.toNat with
      | some error => simpa only [List.append_nil] using h
      | none => exact drain_grows hfeed size.toNat source h
  | reset =>
    rw [operationReadings, List.append_nil]
    exact hreset rfl past r h
  | register consumer =>
    rw [operationReadings, List.append_nil]
    exact hregister consumer rfl past r h
  | address low =>
    rw [operationReadings, List.append_nil]
    exact h

/-- What every feed keeps is kept by operations in a row, if the resets and the registrations among
them keep it as well. -/
theorem performAll_grows_among {ops : List (Operation κ)}
    (hregister : ∀ consumer, .register consumer ∈ ops → ∀ past (r : Run κ σ), Q past r →
      Q past { r with decoder := r.decoder.register consumer })
    (hreset : .reset ∈ ops → ∀ past (r : Run κ σ), Q past r →
      Q past { r with decoder := r.decoder.reset })
    (h : Q past r) : Q (past ++ r.history host ops) (r.performAll host ops).2 := by
  induction ops generalizing past r with
  | nil => simpa only [history, performAll, List.append_nil] using h
  | cons op rest ih =>
    rw [history, ← List.append_assoc]
    apply ih
    · intro consumer hlater
      exact hregister consumer (List.mem_cons_of_mem op hlater)
    · intro hlater
      exact hreset (List.mem_cons_of_mem op hlater)
    · apply perform_grows hfeed _ _ h
      · intro consumer hop
        exact hregister consumer (hop ▸ List.mem_cons_self)
      · intro hop
        exact hreset (hop ▸ List.mem_cons_self)

/-- What every feed and every registration keeps is kept by operations in a row, if a reset keeps it
or there is none. -/
theorem performAll_grows
    (hregister : ∀ past (r : Run κ σ) consumer, Q past r →
      Q past { r with decoder := r.decoder.register consumer })
    {ops : List (Operation κ)}
    (hreset : .reset ∈ ops → ∀ past (r : Run κ σ), Q past r →
      Q past { r with decoder := r.decoder.reset })
    (h : Q past r) : Q (past ++ r.history host ops) (r.performAll host ops).2 := by
  apply performAll_grows_among hfeed _ hreset h
  intro consumer _ past r hpast
  exact hregister past r consumer hpast

end Growing

end Run

namespace Host.Chronicles

variable {κ σ : Type} {host : Host κ σ} {Q : List (Reading κ) → Decoder κ → Prop}

/-- The relation holds at every entry of a history and behind all of them, if the resets and the
registrations in between keep it as well. -/
theorem history (hQ : host.Chronicles Q) {r : Run κ σ} {ops : List (Operation κ)}
    (hregister : ∀ consumer, .register consumer ∈ ops → ∀ past d, Q past d →
      Q past (d.register consumer))
    (hreset : .reset ∈ ops → ∀ past d, Q past d → Q past d.reset) (h : Q [] r.decoder) :
    Q (r.history host ops) (r.performAll host ops).2.decoder ∧
      ∀ earlier e later, r.history host ops = earlier ++ e :: later →
        ∃ reader : Run κ σ, e = reader.reading host e.byte ∧ Q earlier reader.decoder := by
  rw [← List.nil_append (r.history host ops)]
  apply Run.performAll_grows_among (Q := fun past r => Q past r.decoder ∧ ∀ earlier e later,
    past = earlier ++ e :: later →
      ∃ reader : Run κ σ, e = reader.reading host e.byte ∧ Q earlier reader.decoder)
  · rintro past r data ⟨hpast, hearlier⟩
    have hjournal : r.journal host [data] = r.feedReadings host data := List.append_nil _
    obtain ⟨hlast, hentries⟩ := hQ.journal hpast [data]
    rw [hjournal] at hlast hentries
    refine ⟨hlast, fun earlier e later hsplit => ?_⟩
    rcases Reading.of_append_eq hsplit with ⟨rest, hinside⟩ | ⟨head, rfl, hbehind⟩
    · exact hearlier earlier e rest hinside
    · exact hentries head e later hbehind
  · rintro consumer hmem past r ⟨hpast, hearlier⟩
    exact ⟨hregister consumer hmem past r.decoder hpast, hearlier⟩
  · rintro hmem past r ⟨hpast, hearlier⟩
    exact ⟨hreset hmem past r.decoder hpast, hearlier⟩
  · exact ⟨h, fun earlier e later hsplit => by simp at hsplit⟩

end Host.Chronicles

namespace Run

variable {κ σ : Type}

section Registered

variable {host : Host κ σ} {r : Run κ σ}

/-- A decoder keeps its consumer until another one is registered. -/
theorem kept_consumer (P : Option κ → Prop) : Decoder.Kept fun d : Decoder κ => P d.consumer where
  advance d b h := (Decoder.moves_advance d b).frame.2.2.1 ▸ h
  enterStart _ h := h
  reset _ h := h
  advanceByte _ h := h

variable (host) in
/-- If somebody is registered at first and by every later registration, then at every byte. -/
theorem isSome_consumer_of_mem_history (hconsumer : r.decoder.consumer.isSome)
    {ops : List (Operation κ)} (hops : ∀ consumer, .register consumer ∈ ops → consumer.isSome) :
    ∀ e ∈ r.history host ops, e.before.consumer.isSome := by
  have hQ : host.Chronicles fun _ d => d.consumer.isSome := {
    step := fun _ _ b h => kept_step (kept_consumer (·.isSome)) host b h
    advanceByte := fun _ _ h => h
    setError := fun _ _ _ h => h }
  intro e he
  obtain ⟨earlier, later, hsplit⟩ := List.append_of_mem he
  obtain ⟨reader, hread, hthere⟩ := (hQ.history (fun consumer hmem _ _ _ => hops consumer hmem)
    (fun _ _ _ h => h) hconsumer).2 earlier e later hsplit
  rw [hread]
  exact hthere

end Registered

section Coupled

variable {τ : Type} {host : Host κ σ} {other : Host κ τ} {I : σ → τ → Prop} {compared : Prop}
  {r : Run κ σ} {s : Run κ τ}

namespace InStep

variable (hagree : Host.Agree I host other)
include hagree

/-- Runs in step with the same decoder do the same with a byte. -/
theorem step_same (h : InStep Eq I compared r s) (b : UInt8) :
    (r.step host b).1 = (s.step other b).1 ∧
      InStep Eq I compared (r.step host b).2 (s.step other b).2 :=
  h.step (Decoder.bisimulation_eq.unless fun _ => False) hagree b fun ⟨_, _, hfalse⟩ => hfalse

/-- They leave the same entry. -/
theorem reading_eq (h : InStep Eq I compared r s) (b : UInt8) :
    r.reading host b = s.reading other b := by
  obtain ⟨hstop, hnext⟩ := h.step_same hagree b
  rw [reading, reading, h.decoder, hstop, hnext.decoder]

/-- They leave the same entries of the bytes that are read. -/
theorem readings_eq (h : InStep Eq I compared r s) (data : List UInt8) :
    r.readings host data = s.readings other data := by
  induction data generalizing r s with
  | nil => rfl
  | cons b data ih =>
    by_cases hb : b = terminator
    · subst hb
      rw [readings_terminator, readings_terminator]
    · have hentry := h.reading_eq hagree b
      obtain ⟨hstop, hnext⟩ := h.step_same hagree b
      rcases hleft : r.step host b with ⟨stop, next⟩
      rcases hright : s.step other b with ⟨_, following⟩
      rw [hleft, hright] at hstop hnext
      cases hstop
      cases stop with
      | none =>
        rw [readings_cons_of_none hb hleft, readings_cons_of_none hb hright, hentry]
        exact congrArg _ (ih (hnext.countByte (Decoder.bisimulation_eq.unless fun _ => False)))
      | some stop =>
        rw [readings_cons_of_some hb hleft, readings_cons_of_some hb hright, hentry]

/-- They leave the same entries of a feed. -/
theorem feedReadings_eq (h : InStep Eq I compared r s) (data : List UInt8) :
    r.feedReadings host data = s.feedReadings other data :=
  (h.setError (Decoder.bisimulation_eq.unless fun _ => False) none).readings_eq hagree data

/-- They leave the same entries of a source. -/
theorem drainReadings_eq (h : InStep Eq I compared r s) (size : Nat) (source : Source) :
    r.drainReadings host size source = s.drainReadings other size source := by
  induction hleft : source.left using Nat.strongRecOn generalizing source r s with
  | ind left ih =>
    rw [drainReadings]
    rw [drainReadings]
    by_cases hempty : (source.read size).1 = []
    · rw [dif_pos hempty, dif_pos hempty]
    · obtain ⟨houtcome, hnext⟩ := h.feed Decoder.bisimulation_eq hagree (source.read size).1
      rw [dif_neg hempty, dif_neg hempty, h.feedReadings_eq hagree]
      rcases hfirst : r.feed host (source.read size).1 with ⟨outcome, next⟩
      rcases hsecond : s.feed other (source.read size).1 with ⟨_, following⟩
      rw [hfirst, hsecond] at houtcome hnext
      cases houtcome
      rcases outcome with abort | (_ | failure)
      · rfl
      · by_cases hend : terminator ∈ (source.read size).1
        · simp only [if_pos hend]
        · simp only [if_neg hend]
          exact congrArg _ (ih _ (hleft ▸ Source.left_read_lt hempty) hnext _ rfl)
      · rfl

/-- They leave the same entries of an operation. -/
theorem operationReadings_eq (h : InStep Eq I compared r s) (op : Operation κ) :
    r.operationReadings host op = s.operationReadings other op := by
  cases op with
  | feed data count =>
    rw [operationReadings, operationReadings]
    cases selected? data count with
    | none => rfl
    | some bytes => exact h.feedReadings_eq hagree bytes
  | stream size source =>
    rw [operationReadings, operationReadings]
    by_cases hsize : size ≤ 0
    · rw [if_pos hsize, if_pos hsize]
    · rw [if_neg hsize, if_neg hsize]
      cases source.refusal? size.toNat with
      | some error => rfl
      | none => exact h.drainReadings_eq hagree size.toNat source
  | reset | register consumer | address low => rfl

/-- They have the same history. -/
theorem history_eq (h : InStep Eq I compared r s) (ops : List (Operation κ)) :
    r.history host ops = s.history other ops := by
  induction ops generalizing r s with
  | nil => rfl
  | cons op rest ih =>
    have hnext := (h.performAll Decoder.bisimulation_eq hagree [op]).2
    rw [history, history, h.operationReadings_eq hagree op]
    exact congrArg _ (ih hnext)

end InStep

end Coupled

end Run

end IntelHex
