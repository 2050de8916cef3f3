import IntelHex.Proofs.Imaging
import IntelHex.Proofs.Lines
import IntelHex.Proofs.Refusal
import IntelHex.Proofs.Wording

/-!
# One verdict on every file

Whether a file is decoded, and what is said of it otherwise, is a property of its bytes up to the first
terminator: they are a sequence of records and line ends, or they end inside a record, or there is a
first byte that belongs to neither. The verdict is stated without a decoder. Consumers that take every
data block have no part in it, and neither has the way in which the file is read, so every command
comes to the same verdict and goes no further on a file that is not decoded.
-/

namespace IntelHex

/-- Consumers that take every data block and remember nothing. -/
def Host.takeAll {κ : Type} : Host κ Unit :=
  fun _ _ _ => ({ verdict := .accept }, ())

/-- Consumers that take every data block as long as their state is one of some states, and never leave
these. -/
def Host.TakesWhile {κ σ : Type} (I : σ → Prop) (host : Host κ σ) : Prop :=
  ∀ consumer block world, I world →
    (host consumer block world).1 = { restart := false, verdict := .accept } ∧
      I (host consumer block world).2

/-- The verdict on a text. A line is counted from one, and each line end before it begins a new one. -/
inductive Judged {κ : Type} (setting : Setting κ) (text : List UInt8) :
    Except FileError Unit → Prop
  /-- The text is made of valid records and line ends. -/
  | complete {tokens : List Token} (hvalid : ∀ token ∈ tokens, token.Valid setting)
      (hspells : Token.SpellsAll tokens text) : Judged setting text (.ok ())
  /-- The text ends inside a record: it is told in which line this begins. -/
  | truncated {tokens : List Token} {before body : List UInt8} {digits : List Digit}
      (htext : text = before ++ recordMark :: body)
      (hvalid : ∀ token ∈ tokens, token.Valid setting) (hspells : Token.SpellsAll tokens before)
      (hbody : Digit.Spells digits body) (hopen : Unfinished setting digits) :
    Judged setting text (.error (.truncated (1 + lineEnds before)))
  /-- There is a first byte that no record or line end can hold: it is told in which line it stands. -/
  | refused {tokens : List Token} {before rest : List UInt8} {cause : Cause} {place : Nat}
      (htext : text = before ++ rest)
      (hvalid : ∀ token ∈ tokens, token.Valid setting) (hspells : Token.SpellsAll tokens before)
      (hdefect : Defect Host.takeAll setting ⟨{}, ()⟩ rest cause place) :
    Judged setting text (.error (.refused
      (.own ⟨cause, before.length + place, 1 + lineEnds (text.take (before.length + place))⟩)))

/-- What is said of a file that is not decoded: in which line, and why. -/
inductive FileError.Says : FileError → String → Prop
  /-- A byte was refused. -/
  | refused {failure : Failure} {reason : String} (hreason : failure.cause.Tells reason) :
    Says (.refused (.own failure)) ("line " ++ toString failure.line ++ ": " ++ reason)
  /-- The file ended inside a record. -/
  | truncated (line : Nat) : Says (.truncated line) ("line " ++ toString line ++ ": truncated record")

/-- Settings that differ in the consumer only. -/
structure Setting.Alike {κ κ' : Type} (setting : Setting κ) (other : Setting κ') : Prop where
  capacity : setting.capacity = other.capacity
  supported : setting.supported = other.supported

section Alike

variable {κ κ' σ : Type} {setting : Setting κ} {other : Setting κ'}

/-- The consumer has no part in the beginning of a record. -/
theorem Unfinished.of_alike {digits : List Digit} (h : Unfinished setting digits)
    (halike : setting.Alike other) : Unfinished other digits where
  short := h.short
  typeHigh := h.typeHigh
  typeLow code hcode := by
    rw [← halike.supported, ← halike.capacity]
    exact h.typeLow code hcode

/-- The consumer has no part in what is admitted. -/
theorem Record.Admitted.of_alike {r : Record} (h : r.Admitted setting)
    (halike : setting.Alike other) : r.Admitted other where
  supported := halike.supported ▸ h.supported
  fits := halike.capacity ▸ h.fits

/-- The consumer has no part in what is valid. -/
theorem Token.Valid.of_alike {token : Token} (h : token.Valid setting)
    (halike : setting.Alike other) : token.Valid other := by
  cases token with
  | carriageReturn => trivial
  | lineFeed => trivial
  | record r => exact ⟨h.toAdmitted.of_alike halike, h.residue_eq⟩

/-- Where every data block is taken, the consumer has no part in a defect. -/
theorem Defect.of_alike {host : Host κ' σ} {s : Standing Unit} {t : Standing σ}
    {text : List UInt8} {cause : Cause} {place : Nat}
    (h : Defect Host.takeAll setting s text cause place) (halike : setting.Alike other) :
    Defect host other t text cause place := by
  cases h with
  | start hlf hcr hmark => exact .start hlf hcr hmark
  | digit hbody hopen hb => exact .digit hbody (hopen.of_alike halike) hb
  | typeNotSmall hlength hbody hdigit => exact .typeNotSmall hlength hbody hdigit
  | unsupportedType hlength hbody hcode =>
    rw [halike.supported] at hcode
    exact .unsupportedType hlength hbody hcode
  | countOverflow hlength hbody hcode hsome hlarge =>
    rw [halike.supported] at hcode
    rw [halike.capacity] at hlarge ⊢
    exact .countOverflow hlength hbody hcode hsome hlarge
  | checksum hadmitted hbody hsum => exact .checksum (hadmitted.of_alike halike) hbody hsum
  | rejected hvalid hbody hconsumer hcode hreject => cases hreject

/-- The consumer has no part in the verdict. -/
theorem Judged.of_alike {text : List UInt8} {verdict : Except FileError Unit}
    (h : Judged setting text verdict) (halike : setting.Alike other) :
    Judged other text verdict := by
  cases h with
  | complete hvalid hspells =>
    exact .complete (fun token hmem => (hvalid token hmem).of_alike halike) hspells
  | truncated htext hvalid hspells hbody hopen =>
    exact .truncated htext (fun token hmem => (hvalid token hmem).of_alike halike) hspells hbody
      (hopen.of_alike halike)
  | refused htext hvalid hspells hdefect =>
    exact .refused htext (fun token hmem => (hvalid token hmem).of_alike halike) hspells
      (hdefect.of_alike halike)

end Alike

section Whole

variable {κ σ : Type} {setting : Setting κ} {text : List UInt8}

/-- Consumers that take everything are consumers that do. -/
theorem Host.accepting_takeAll : (Host.takeAll (κ := κ)).Accepting :=
  fun _ _ _ => rfl

/-- There is a verdict on every text. -/
theorem exists_judged (setting : Setting κ) (text : List UInt8) :
    ∃ verdict, Judged setting text verdict := by
  obtain ⟨tokens, before, rest, s, rfl, hspells, htaken, hrest⟩ :=
    exists_division Host.accepting_takeAll.calm setting ⟨{}, ()⟩ text
  cases hrest with
  | nothing =>
    rw [List.append_nil]
    exact ⟨_, .complete htaken.valid hspells⟩
  | unfinished hbody hopen => exact ⟨_, .truncated rfl htaken.valid hspells hbody hopen⟩
  | defect hdefect => exact ⟨_, .refused rfl htaken.valid hspells (hdefect.of_alike ⟨rfl, rfl⟩)⟩

/-- The wording of an error says in which line it is, and why. -/
theorem Judged.says_message {error : FileError} (h : Judged setting text (.error error)) :
    error.Says error.message := by
  cases h with
  | truncated => exact .truncated _
  | refused htext hvalid hspells hdefect =>
    refine .refused (Cause.tells_message fun address hrejected => ?_)
    -- no block is refused, so this is not said of any
    subst hrejected
    cases hdefect with
    | rejected hvalid hbody hconsumer hcode hreject => cases hreject

/-- The decoder comes to the verdict. -/
theorem Judged.fileVerdict_eq {verdict : Except FileError Unit} (h : Judged setting text verdict)
    (hend : terminator ∉ text) (traced : Bool) :
    fileVerdict ((Run.start setting.decoder () traced).feed Host.takeAll text) = verdict := by
  have haccepts := Host.accepting_takeAll (κ := κ)
  have htracks : ((Run.start setting.decoder () traced).setError none).decoder.Tracks [] :=
    Decoder.tracks_fresh _ _ _
  cases h with
  | complete hvalid hspells =>
    obtain ⟨next, hfed, hphase, -⟩ := Run.feed_tokens haccepts hvalid hspells () traced
    rw [hfed]
    exact if_pos hphase
  | @truncated tokens before body digits htext hvalid hspells hbody hopen =>
    subst htext
    obtain ⟨t, htaken, -⟩ := Token.exists_taken haccepts hvalid ⟨{}, ()⟩
    obtain ⟨next, hnext, hread⟩ :=
      (Run.between_start setting () traced).read_tokens haccepts.steady htaken hspells
    obtain ⟨inside, hinside, hopened⟩ := hnext.read_digits Host.takeAll hopen hbody
    have hall := (hread _).trans (hopened [])
    rw [List.append_nil] at hall
    have hline := (Run.tracks_readBytes haccepts.steady htracks hall hend).line
    rw [List.nil_append, lineEnds_append_of_forall] at hline
    · rw [Run.feed_of_read hall, fileVerdict, if_neg hinside.midway.phase_ne_start, hline]
    · refine List.forall_mem_cons.2 ⟨by decide, fun b hb => ?_⟩
      obtain ⟨digit, hdigit⟩ := hbody.exists_of_mem hb
      exact Decoder.ne_lineEnd_of_digit hdigit
  | @refused tokens before rest cause place htext hvalid hspells hdefect =>
    subst htext
    obtain ⟨t, htaken, -⟩ := Token.exists_taken haccepts hvalid ⟨{}, ()⟩
    obtain ⟨next, hnext, hread⟩ :=
      (Run.between_start setting () traced).read_tokens haccepts.steady htaken hspells
    rw [List.mem_append, not_or] at hend
    obtain ⟨line, last, hstop⟩ :=
      hnext.stop_defect haccepts.steady hend.2 (hdefect.of_alike ⟨rfl, rfl⟩)
    rw [Nat.zero_add] at hstop
    have hall := (hread rest).trans hstop
    have hline : line = _ := Run.line_of_failed haccepts.steady htracks hall
    rw [← hline, Run.feed_eq_conclude, hall]
    rfl

/-- There is only one verdict on a text. -/
theorem Judged.unique {verdict other : Except FileError Unit} (h : Judged setting text verdict)
    (hother : Judged setting text other) (hend : terminator ∉ text) : other = verdict :=
  (hother.fileVerdict_eq hend false).symm.trans (h.fileVerdict_eq hend false)

/-- Consumers that take every data block come to the same verdict. -/
theorem Host.TakesWhile.fileVerdict_eq {I : σ → Prop} {host : Host κ σ} (h : host.TakesWhile I)
    {world : σ} (hworld : I world) (setting : Setting κ) (traced : Bool) (content : List UInt8) :
    fileVerdict ((Run.start setting.decoder world traced).feed host content) =
      fileVerdict ((Run.start setting.decoder () traced).feed Host.takeAll content) := by
  have hagree : Host.Agree (fun world (_ : Unit) => I world) host Host.takeAll :=
    fun consumer block world _ hworld => h consumer block world hworld
  have hstart : Run.InStep Eq (fun world (_ : Unit) => I world) False
      (Run.start setting.decoder world traced) (Run.start setting.decoder () traced) :=
    ⟨rfl, hworld, nofun⟩
  obtain ⟨houtcome, hnext⟩ := hstart.feed Decoder.bisimulation_eq hagree content
  exact fileVerdict_congr houtcome hnext.decoder

/-- A new decoder is fed a file like any other bytes, even if there are none. -/
theorem feedContent_start (host : Host κ σ) (setting : Setting κ) (world : σ) (traced : Bool)
    (content : List UInt8) :
    (Run.start setting.decoder world traced).feedContent host content =
      (Run.start setting.decoder world traced).feed host content := by
  unfold Run.feedContent
  split
  · next hempty =>
    subst hempty
    rfl
  · rfl

end Whole

/-- The setting of whole files. -/
def fileSetting {κ : Type} (consumer : Option κ) : Setting κ :=
  ⟨consumer, Decoder.defaultCapacity, Decoder.defaultSupported⟩

/-- The verdict on a file. The consumer has no part in it, so it is judged as if there were none. -/
def FileJudged (content : List UInt8) : Except FileError Unit → Prop :=
  Judged (fileSetting (none : Option Unit)) (content.takeWhile (· ≠ terminator))

/-- The bytes before the first terminator hold none. -/
theorem terminator_not_mem_takeWhile (content : List UInt8) :
    terminator ∉ content.takeWhile (· ≠ terminator) := fun hmem => by
  simpa using List.mem_takeWhile_imp hmem

/-- A file is decoded as it is judged, in whatever chunks it is read, as long as its consumers take
every data block. -/
theorem FileJudged.decodeWhole_eq {κ σ : Type} {content : List UInt8}
    {verdict : Except FileError Unit} (h : FileJudged content verdict) {I : σ → Prop}
    {host : Host κ σ} (htakes : host.TakesWhile I) (consumer : Option κ) (world : σ)
    (hworld : I world) (traced : Bool) {size : Int} {source : Source} (hsize : 0 < size)
    (hread : source.refusal? size.toNat = none) (hyields : source.Yields size.toNat content) :
    (decodeWhole host consumer world traced size source).1 = verdict := by
  have halike : (fileSetting (none : Option Unit)).Alike (fileSetting consumer) := ⟨rfl, rfl⟩
  have hverdict :=
    (h.of_alike halike).fileVerdict_eq (terminator_not_mem_takeWhile content) traced
  rw [Run.feed_eq_conclude, Run.readBytes_takeWhile, ← Run.feed_eq_conclude] at hverdict
  rw [decodeWhole_of_yields host consumer world traced hsize hread hyields, ← hverdict]
  refine Eq.trans ?_ (htakes.fileVerdict_eq hworld (fileSetting consumer) traced content)
  exact congrArg fileVerdict (feedContent_start host (fileSetting consumer) world traced content)

namespace Cli

/-- The list takes every data block. -/
theorem takesWhile_listHost : listHost.TakesWhile fun _ => True :=
  fun _ _ _ _ => ⟨rfl, trivial⟩

/-- The memory takes every data block as long as it may be written over. -/
theorem takesWhile_memoryHost : memoryHost.TakesWhile fun image => image.overlap = true := by
  rintro consumer block ⟨memory, overlap⟩ hoverlap
  change overlap = true at hoverlap
  subst hoverlap
  exact ⟨rfl, rfl⟩

/-- How a job ends once its input is accepted: well, or without an image of the data, or without a
file to write the image to. -/
inductive Job.Proceeds (job : Job) (disk : Disk) : Status → Prop
  | done : Proceeds job disk (.exit 0)
  | noImage (error : ImageError) (hverb : job.verb = .crc32 ∨ job.verb = .tobin) :
    Proceeds job disk (.crashed (.image error))
  | noFile {name : String} {error : OpenError} {status : Status} (hverb : job.verb = .tobin)
      (houtput : job.output = .file name) (hcreate : disk.create name = .error error)
      (hstatus : status = .exit 1 ∨ status = .crashed .nullInName) : Proceeds job disk status

/-- A job ends by the verdict on its input: it proceeds, or it says what is wrong and does nothing
else. -/
def Job.Obeys (job : Job) (verdict : Except FileError Unit) (disk : Disk) (outcome : Outcome) : Prop :=
  match verdict with
  | .ok () => job.Proceeds disk outcome.status
  | .error error =>
    outcome.status = .exit 1 ∧ outcome.output = [] ∧ outcome.disk = disk ∧
      ∃ trace text, error.Says text ∧ outcome.errors = logLines trace ++ ["Error: " ++ text]

/-- An image that is written ends the job as it proceeds. -/
theorem proceeds_writeImage {job : Job} (hverb : job.verb = .tobin) (disk : Disk) (log : List String)
    (memory : Memory) (extent : Extent) (room : Nat) :
    job.Proceeds disk (writeImage disk log memory extent room job.output).status := by
  unfold writeImage
  cases houtput : job.output with
  | standard =>
    dsimp only
    cases memory.image extent room with
    | ok data => exact .done
    | error error => exact .noImage error (.inr hverb)
  | file name =>
    dsimp only
    cases hcreate : disk.create name with
    | error error =>
      refine .noFile hverb houtput hcreate ?_
      cases error with
      | nullInName => exact .inr rfl
      | _ => exact .inl rfl
    | ok created =>
      dsimp only
      cases memory.image extent room with
      | ok data => exact .done
      | error error => exact .noImage error (.inr hverb)

/-- What is said of a file is written as it is, even where text is not meant for a terminal. -/
theorem errorLine_of_says {error : FileError} {text : String} (h : error.Says text) :
    errorLine text = "Error: " ++ text := by
  have hmarker : Text.ControlSequence.escapeChar ∉ text.toList := by
    cases h with
    | refused hreason =>
      rw [hreason.eq_message]
      exact Text.escapeChar_not_mem_append (Text.escapeChar_not_mem_append
        (Text.escapeChar_not_mem_append (by decide) (Text.escapeChar_not_mem_toString _)) (by decide))
          (Cause.escapeChar_not_mem_message _)
    | truncated line =>
      exact Text.escapeChar_not_mem_append (Text.escapeChar_not_mem_append (by decide)
        (Text.escapeChar_not_mem_toString line)) (by decide)
  rw [errorLine, Text.ControlSequence.remove_eq_self hmarker, String.ofList_toList]

/-- To say what is wrong with a file that is not decoded, and do nothing else, is to obey the verdict. -/
theorem FileJudged.obeys_undecoded {content : List UInt8} {error : FileError}
    (h : FileJudged content (.error error)) (job : Job) (disk : Disk) (trace : List Event) :
    job.Obeys (.error error) disk (undecoded disk trace error) := by
  have hsays := Judged.says_message h
  have hline := errorLine_of_says hsays
  cases h with
  | truncated => exact ⟨rfl, rfl, rfl, trace, _, hsays, congrArg (logLines trace ++ [·]) hline⟩
  | refused => exact ⟨rfl, rfl, rfl, trace, _, hsays, congrArg (logLines trace ++ [·]) hline⟩

/-- To make something of a file if it is decoded is to obey the verdict on it, if the job proceeds. -/
theorem FileJudged.obeys_afterDecoding {σ : Type} {content : List UInt8}
    {verdict : Except FileError Unit} (h : FileJudged content verdict) {job : Job} {disk : Disk}
    {decoded : Except FileError Unit × Run Unit σ} (hdecoded : decoded.1 = verdict)
    {next : Run Unit σ → Outcome} (hnext : ∀ run, job.Proceeds disk (next run).status) :
    job.Obeys verdict disk (afterDecoding disk decoded next) := by
  obtain ⟨error | ⟨⟩, run⟩ := decoded <;> subst hdecoded
  · exact FileJudged.obeys_undecoded h job disk run.trace
  · exact hnext run

/-- Every command decodes its input, and obeys the verdict on it. -/
theorem Job.Works.obeys {verb : Verb} {content : List UInt8} {job : Job}
    (h : Job.Works verb content job) {verdict : Except FileError Unit}
    (hjudged : FileJudged content verdict) (verbose : Bool) (room : Nat) (disk : Disk) :
    job.Obeys verdict disk (job.run verbose room disk) := by
  obtain ⟨_, _, _, _, haccepted⟩ := h.accepted
  have hsize := (Job.accepted_of_ofArguments haccepted).chunkSize
  obtain ⟨medium, hinput, hread⟩ := h.input
  have hyields : job.input.Yields job.settings.chunkSize.toNat content := by
    rw [hinput]
    exact Source.yields_whole (by omega) medium content 0
  have hreadable : job.input.refusal? job.settings.chunkSize.toNat = none := by
    rw [hinput]
    exact hread
  have hlist (consumer : Option Unit) :=
    hjudged.decodeWhole_eq takesWhile_listHost consumer {} trivial verbose hsize hreadable hyields
  have hmemory :=
    hjudged.decodeWhole_eq takesWhile_memoryHost (some ()) {} rfl verbose hsize hreadable hyields
  cases hverb : job.verb with
  | validate =>
    rw [job.run_of_validate disk verbose room hverb]
    exact FileJudged.obeys_afterDecoding hjudged (hlist none) fun _ => .done
  | dump =>
    rw [job.run_of_dump disk verbose room hverb]
    exact FileJudged.obeys_afterDecoding hjudged (hlist (some ())) fun _ => .done
  | crc32 =>
    rw [job.run_of_crc32 disk verbose room hverb]
    refine FileJudged.obeys_afterDecoding hjudged hmemory fun run => ?_
    cases run.world.memory.imageCrc job.settings.extent room with
    | ok value => exact .done
    | error error => exact .noImage error (.inl hverb)
  | tobin =>
    rw [job.run_of_tobin disk verbose room hverb]
    exact FileJudged.obeys_afterDecoding hjudged hmemory fun run =>
      proceeds_writeImage hverb disk (logLines run.trace) run.world.memory job.settings.extent room

/-- There is one verdict on every file, that on the bytes before the first terminator. Every decoder
of the file comes to it, in whatever chunks it is read, if its consumers take every data block, and so
does one without a consumer. Every call that works on the file obeys it: if the file is not decoded, it
says in which line and why, prints nothing else, and touches no file. -/
theorem one_verdict (content : List UInt8) :
    ∃ verdict : Except FileError Unit,
      (∀ other, FileJudged content other ↔ other = verdict) ∧
      (∀ error, verdict = .error error → error.Says error.message) ∧
      (∀ (κ σ : Type) (I : σ → Prop) (host : Host κ σ) (consumer : Option κ) (world : σ)
        (traced : Bool) (size : Int) (source : Source), host.TakesWhile I → I world → 0 < size →
        source.refusal? size.toNat = none → source.Yields size.toNat content →
        (decodeWhole host consumer world traced size source).1 = verdict) ∧
      ∀ verb call job, Call.Works verb content call job →
        job.Obeys verdict call.disk call.outcome := by
  obtain ⟨verdict, hjudged⟩ : ∃ verdict, FileJudged content verdict := exists_judged _ _
  have hend := terminator_not_mem_takeWhile content
  refine ⟨verdict, fun other => ⟨fun hother => hjudged.unique hother hend, fun hsame => ?_⟩,
    fun error herror => ?_, ?_, ?_⟩
  · exact hsame ▸ hjudged
  · subst herror
    exact Judged.says_message hjudged
  · intro κ σ I host consumer world traced size source htakes hworld hsize hread hyields
    exact hjudged.decodeWhole_eq htakes consumer world hworld traced hsize hread hyields
  · intro verb call job hcall
    obtain ⟨verbose, hasks⟩ := hcall.asks
    rw [hasks.outcome_eq]
    exact hcall.job.obeys hjudged verbose call.room call.disk

/-- A file with a terminator inside its second record: a list that is given byte by byte and a memory
that is given all at once come to the same verdict, and its image is not written, but it is said in
which line it ends early. -/
theorem one_verdict_truncated :
    let content : List UInt8 := ":0100000041BE\r\n:0\x000".toList.map Char.toUInt8
    let disk : Disk := { files := [("o.bin", [1])] }
    let writing : Call := ⟨["tobin", "-", "o.bin"], content, disk, 8⟩
    (decodeWhole listHost (some ()) {} false 1 (.ofBytes content)).1 = .error (.truncated 2) ∧
      (decodeWhole memoryHost (some ()) {} true 4096 (.ofFile 4096 content)).1 =
        .error (.truncated 2) ∧
      writing.outcome.status = .exit 1 ∧ writing.outcome.disk = disk ∧
      ∃ log, writing.outcome.errors = log ++ ["Error: line 2: truncated record"] := by
  intro content disk writing
  let record : Record := ⟨0, 0, 0, [0x41], 0xBE, by decide⟩
  have hvalid : ∀ token ∈ [Token.record record, .carriageReturn, .lineFeed],
      token.Valid (fileSetting (none : Option Unit)) := by
    simp only [List.forall_mem_cons]
    exact ⟨⟨⟨by decide, by decide⟩, by decide⟩, trivial, trivial, nofun⟩
  have hrecord : (Token.record record).Spells (content.take 13) :=
    ⟨(content.take 13).tail, rfl, by decide⟩
  have hreturn : Token.carriageReturn.Spells [0x0D] := rfl
  have hfeed : Token.lineFeed.Spells [0x0A] := rfl
  have hspells : Token.SpellsAll [Token.record record, .carriageReturn, .lineFeed]
      (content.take 15) := .cons hrecord (.cons hreturn (.cons hfeed .nil))
  have hbody : Digit.Spells [0] [0x30] := by decide
  have hjudged : FileJudged content (.error (.truncated 2)) :=
    .truncated rfl hvalid hspells hbody (.of_length_le _ (by decide))
  have hscan : Arguments.scan Verb.tobin.specs true ["-", "o.bin"] =
      .ok { operands := ["-", "o.bin"] } := by decide +kernel
  have hworks : writing.Works .tobin content ⟨.tobin, {}, .ofBytes content, .file "o.bin"⟩ :=
    ⟨⟨false, Call.asks_of_words rfl hscan rfl (by decide +kernel)⟩, rfl, .buffer, rfl,
      by decide +kernel⟩
  obtain ⟨verdict, hunique, hsays, hdecoded, hobeys⟩ := one_verdict content
  obtain rfl := (hunique _).1 hjudged
  obtain ⟨hstatus, -, hdisk, trace, text, htext, herrors⟩ := hobeys _ writing _ hworks
  refine ⟨?_, ?_, hstatus, hdisk, logLines trace, ?_⟩
  · exact hdecoded _ _ _ listHost (some ()) {} false 1 (.ofBytes content) takesWhile_listHost trivial
      (by decide) (by decide) (Source.yields_whole (by decide) .buffer content 0)
  · exact hdecoded _ _ _ memoryHost (some ()) {} true 4096 (.ofFile 4096 content)
      takesWhile_memoryHost rfl (by decide) (by decide)
      (Source.yields_whole (by decide) (.file 4096) content 0)
  · cases htext
    exact herrors

end Cli

end IntelHex
