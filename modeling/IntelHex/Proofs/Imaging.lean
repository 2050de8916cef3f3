import IntelHex.Proofs.Chunking
import IntelHex.Proofs.CommandLine
import IntelHex.Proofs.Coupling
import IntelHex.Proofs.Overlay

/-!
# Three commands, one image

The listing of a file, its image and its check value come from the same data blocks. They are decoded
by different consumers, from different media and in different chunks; but the list and the memory both
take every block, so the two decoders stay in step, and the memory always has the content of the
blocks listed so far, laid over each other in order.
-/

namespace IntelHex

section Whole

variable {κ σ τ : Type}

/-- Feeds the content of a file in one piece, if there is any. -/
def Run.feedContent (host : Host κ σ) (content : List UInt8) (r : Run κ σ) :
    Except Abort Intake × Run κ σ :=
  if content = [] then (.ok .accepted, r) else r.feed host content

/-- A file was taken in, and ended between two records. -/
def Taken (fed : Except Abort Intake × Run κ σ) : Prop :=
  fed.1 = .ok .accepted ∧ fed.2.decoder.phase = .start

/-- What is said of a file that has been fed. -/
def fileVerdict (fed : Except Abort Intake × Run κ σ) : Except FileError Unit :=
  match fed with
  | (.error abort, _) => .error (.aborted abort)
  | (.ok (.refused error), _) => .error (.refused error)
  | (.ok .accepted, run) =>
    if run.decoder.phase = .start then .ok () else .error (.truncated run.decoder.position.line)

/-- Nothing is said against a file exactly if it was taken in. -/
theorem fileVerdict_eq_ok_iff (fed : Except Abort Intake × Run κ σ) :
    fileVerdict fed = .ok () ↔ Taken fed := by
  obtain ⟨abort | (_ | error), run⟩ := fed
  · exact ⟨nofun, nofun⟩
  · by_cases hphase : run.decoder.phase = .start
    · exact iff_of_true (if_pos hphase) ⟨rfl, hphase⟩
    · rw [fileVerdict, if_neg hphase]
      exact ⟨nofun, fun htaken => absurd htaken.2 hphase⟩
  · exact ⟨nofun, nofun⟩

/-- Only the outcome and the decoder have a part in what is said of a file. -/
theorem fileVerdict_congr {fed : Except Abort Intake × Run κ σ} {other : Except Abort Intake × Run κ τ}
    (houtcome : fed.1 = other.1) (hdecoder : fed.2.decoder = other.2.decoder) :
    fileVerdict fed = fileVerdict other := by
  obtain ⟨outcome, run⟩ := fed
  obtain ⟨_, last⟩ := other
  subst houtcome
  change run.decoder = last.decoder at hdecoder
  rcases outcome with abort | (_ | error)
  · rfl
  · rw [fileVerdict, fileVerdict, hdecoder]
  · rfl

/-- However a file is read, it comes to what its content comes to in one piece, as long as chunks can be
read. -/
theorem decodeWhole_of_yields (host : Host κ σ) (consumer : Option κ) (world : σ) (traced : Bool)
    {size : Int} {source : Source} {content : List UInt8} (hsize : 0 < size)
    (hread : source.refusal? size.toNat = none) (hyields : source.Yields size.toNat content) :
    let fed := (Run.start (fileDecoder consumer) world traced).feedContent host content
    decodeWhole host consumer world traced size source = (fileVerdict fed, fed.2) := by
  intro fed
  have hfed : _ = fed :=
    Run.drain_of_yields host hyields (Run.start (fileDecoder consumer) world traced)
  rw [← hfed]
  unfold decodeWhole Run.feedSource
  rw [if_neg (Int.not_le.2 hsize), hread]
  rcases Run.drain host size.toNat source (Run.start (fileDecoder consumer) world traced) with
    ⟨abort | (_ | error), run, left⟩
  · rfl
  · simp only [fileVerdict]
    split <;> rfl
  · rfl

/-- Neither the medium nor the size of the chunks makes a difference, as long as chunks can be read. -/
theorem decodeWhole_content (host : Host κ σ) (consumer : Option κ) (world : σ) (traced : Bool)
    {size : Int} {medium : Medium} (hsize : 0 < size) (hread : medium.refusal? size.toNat = none)
    (content : List UInt8) :
    let fed := (Run.start (fileDecoder consumer) world traced).feedContent host content
    (decodeWhole host consumer world traced size (.whole medium content 0)).2 = fed.2 ∧
      ((decodeWhole host consumer world traced size (.whole medium content 0)).1 = .ok () ↔
        Taken fed) := by
  intro fed
  have hyields := Source.yields_whole (show 0 < size.toNat by omega) medium content 0
  have hsource : (Source.whole medium content 0).refusal? size.toNat = none := hread
  rw [decodeWhole_of_yields host consumer world traced hsize hsource hyields]
  exact ⟨rfl, fileVerdict_eq_ok_iff fed⟩

/-- Consumers that answer alike have the same file taken in or not. -/
theorem Run.InStep.feedContent {I : σ → τ → Prop} {compared : Prop} {host : Host κ σ}
    {other : Host κ τ} {r : Run κ σ} {s : Run κ τ} (hagree : Host.Agree I host other)
    (h : Run.InStep Eq I compared r s) (content : List UInt8) :
    (Taken (r.feedContent host content) ↔ Taken (s.feedContent other content)) ∧
      I (r.feedContent host content).2.world (s.feedContent other content).2.world := by
  have hfed : (r.feedContent host content).1 = (s.feedContent other content).1 ∧
      InStep Eq I compared (r.feedContent host content).2 (s.feedContent other content).2 := by
    unfold Run.feedContent
    by_cases hempty : content = []
    · rw [if_pos hempty, if_pos hempty]
      exact ⟨rfl, h⟩
    · rw [if_neg hempty, if_neg hempty]
      exact h.feed Decoder.bisimulation_eq hagree content
  rw [Taken, Taken, hfed.1, hfed.2.decoder]
  exact ⟨Iff.rfl, hfed.2.world⟩

end Whole

namespace Cli

/-- What comes of listing the blocks of a file. -/
def listed (content : List UInt8) : Except Abort Intake × Run Unit BlockList :=
  (Run.start (fileDecoder (some ())) {} false).feedContent listHost content

variable {size : Int} {medium : Medium}

/-- The blocks of a file are listed the same, from any medium, in any chunks, and traced or not. -/
theorem decodeWhole_listHost (content : List UInt8) (verbose : Bool) (hsize : 0 < size)
    (hread : medium.refusal? size.toNat = none) :
    ((decodeWhole listHost (some ()) {} verbose size (.whole medium content 0)).1 = .ok () ↔
        Taken (listed content)) ∧
      (decodeWhole listHost (some ()) {} verbose size (.whole medium content 0)).2.world =
        (listed content).2.world := by
  have hstart : Run.InStep Eq Eq False (Run.start (fileDecoder (some ())) {} verbose)
      (Run.start (fileDecoder (some ())) ({} : BlockList) false) := ⟨rfl, rfl, nofun⟩
  obtain ⟨htaken, hworld⟩ := hstart.feedContent (Host.agree_eq listHost) content
  obtain ⟨hrun, hdecoded⟩ :=
    decodeWhole_content listHost (some ()) {} verbose hsize hread content
  rw [hrun]
  exact ⟨hdecoded.trans htaken, hworld⟩

/-- Settings as the command line accepts them: chunks of some size, and a fill value that is a byte. -/
structure Settings.Accepted (settings : Settings) : Prop where
  chunkSize : 0 < settings.chunkSize
  fill : 0 ≤ settings.extent.fill ∧ settings.extent.fill ≤ 255

/-- The settings by default are accepted. -/
theorem Settings.accepted_default : ({} : Settings).Accepted :=
  ⟨by decide, by decide⟩

/-- A value that an option takes leaves the settings accepted. -/
theorem Settings.Accepted.set {settings after : Settings} (h : settings.Accepted) {key : Key}
    {value : String} (hset : settings.set key value = .ok after) : after.Accepted := by
  unfold Settings.set at hset
  cases key with
  | chunkSize =>
    dsimp only at hset
    split at hset
    · split at hset
      · next hpositive =>
        cases hset
        exact ⟨hpositive, h.fill⟩
      · cases hset
    · cases hset
  | fill =>
    dsimp only at hset
    split at hset
    · split at hset
      · next hbyte =>
        cases hset
        exact ⟨h.chunkSize, hbyte⟩
      · cases hset
    · cases hset
  | start | endex =>
    dsimp only at hset
    split at hset
    · cases hset
      exact ⟨h.chunkSize, h.fill⟩
    · cases hset
  | lower =>
    cases hset
    exact ⟨h.chunkSize, h.fill⟩
  | help =>
    cases hset
    exact h

/-- Options that are taken one after the other leave the settings accepted. -/
theorem Settings.Accepted.setAll {settings after : Settings} (h : settings.Accepted)
    {arguments : Arguments Key} {keys : List Key}
    (hset : Settings.setAll arguments settings keys = .ok after) : after.Accepted := by
  induction keys generalizing settings with
  | nil =>
    cases hset
    exact h
  | cons key rest ih =>
    rw [Settings.setAll] at hset
    split at hset
    · next between hfirst => exact ih (h.set hfirst) hset
    · cases hset

/-- A job that the command line leads to has accepted settings. -/
theorem Job.accepted_of_ofArguments {disk : Disk} {standardInput : List UInt8} {room : Nat} {verb : Verb}
    {arguments : Arguments Key} {job : Job}
    (h : Job.ofArguments disk standardInput room verb arguments = .ok job) :
    job.settings.Accepted := by
  unfold Job.ofArguments at h
  split at h
  · cases h
  · next settings hsettings =>
    have haccepted := Settings.accepted_default.setAll hsettings
    repeat' split at h
    all_goals cases h
    all_goals exact haccepted

/-- A job is of the command that it is asked of. -/
theorem Job.verb_of_ofArguments {disk : Disk} {standardInput : List UInt8} {room : Nat} {verb : Verb}
    {arguments : Arguments Key} {job : Job}
    (h : Job.ofArguments disk standardInput room verb arguments = .ok job) : job.verb = verb := by
  unfold Job.ofArguments at h
  repeat' split at h
  all_goals cases h
  all_goals rfl

/-- The input of a job is the given content, in chunks that can be read. -/
def Job.Reads (content : List UInt8) (job : Job) : Prop :=
  ∃ medium, job.input = .whole medium content 0 ∧
    medium.refusal? job.settings.chunkSize.toNat = none

/-- The command line leads to the job, and its input is the given content, in chunks that can be
read. -/
structure Job.Works (verb : Verb) (content : List UInt8) (job : Job) : Prop where
  verb_eq : job.verb = verb
  accepted : ∃ disk standardInput room arguments,
    Job.ofArguments disk standardInput room verb arguments = .ok job
  input : job.Reads content

/-- A call asks for a job of the command, and its input is the given content, in chunks that can be
read. -/
structure Call.Works (verb : Verb) (content : List UInt8) (call : Call) (job : Job) : Prop where
  asks : ∃ verbose, call.Asks verbose job
  verb_eq : job.verb = verb
  input : job.Reads content

/-- The job of a call works on the same content. -/
theorem Call.Works.job {verb : Verb} {content : List UInt8} {call : Call} {job : Job}
    (h : call.Works verb content job) : Job.Works verb content job := by
  obtain ⟨⟨verbose, hasks⟩, hverb, hinput⟩ := h
  obtain ⟨-, -, -, -, -, -, -, hjob⟩ := hasks
  obtain rfl := (Job.verb_of_ofArguments hjob).symm.trans hverb
  exact ⟨hverb, ⟨_, _, _, _, hjob⟩, hinput⟩

/-- The program ends as an image demands: well if there is one, having done with its bytes what it is
asked for, and otherwise by breaking off for the reason that there is none. -/
def Outcome.Shows (outcome : Outcome) (image : Except ImageError (List UInt8))
    (done : List UInt8 → Prop) : Prop :=
  match image with
  | .ok data => outcome.status = .exit 0 ∧ done data
  | .error error => outcome.status = .crashed (.image error)

/-- Some bytes stand in a file, and all other files are as before. -/
def Disk.Holds (disk before : Disk) (place : String) (data : List UInt8) : Prop :=
  disk.files.lookup place = some data ∧
    ∀ other, other ≠ place → disk.files.lookup other = before.files.lookup other

/-- An input that was not decoded does not end well. -/
theorem status_undecoded (disk : Disk) (trace : List Event) (e : FileError) :
    (undecoded disk trace e).status ≠ .exit 0 := by
  cases e <;> exact nofun

/-- The blocks that a file delivers to a list. -/
def delivered (content : List UInt8) : List (Int × List UInt8) :=
  (listed content).2.world.blocks

variable {content : List UInt8} {job : Job} {room : Nat}

/-- Listing prints the blocks if the file can be decoded, and does not end well otherwise. -/
theorem Job.Works.run_dump (h : Job.Works .dump content job) (verbose : Bool) (room : Nat)
    (disk : Disk) :
    ((job.run verbose room disk).status = .exit 0 ↔ Taken (listed content)) ∧
      (Taken (listed content) → (job.run verbose room disk).output =
        textBytes (String.ofList (Listing.lines job.settings.letters (delivered content)))) := by
  obtain ⟨medium, hinput, hread⟩ := h.input
  obtain ⟨_, _, _, _, haccepted⟩ := h.accepted
  obtain ⟨hdecoded, hworld⟩ := decodeWhole_listHost content verbose
    (Job.accepted_of_ofArguments haccepted).chunkSize hread
  rw [job.run_of_dump disk verbose room h.verb_eq, hinput, delivered, ← hdecoded, ← hworld]
  rcases decodeWhole listHost (some ()) {} verbose job.settings.chunkSize (.whole medium content 0)
    with ⟨e | ⟨⟩, run⟩
  · exact ⟨⟨fun hstatus => absurd hstatus (status_undecoded _ _ e), nofun⟩, nofun⟩
  · exact ⟨⟨fun _ => rfl, fun _ => rfl⟩, fun _ => rfl⟩

end Cli

end IntelHex
