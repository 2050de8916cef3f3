import IntelHex.Proofs.CommandLine
import IntelHex.Proofs.Laws

/-!
# What a failed run leaves of the files

A command line that is refused, an input that is missing or not decoded and an output file that cannot
be opened all leave the files as they are. There is one failure that does not: the output file is
opened, and so emptied, before it is known whether there is an image to write into it.
-/

namespace IntelHex.Cli

variable {disk : Disk} {room : Nat}

/-- The output file of a job has been opened, and there is no image to write into it: the file is
empty, and no other file has been touched. -/
structure Job.Empties (job : Job) (disk : Disk) (outcome : Outcome) : Prop where
  verb : job.verb = .tobin
  status : ∃ error, outcome.status = .crashed (.image error)
  opened : ∃ name place, job.output = .file name ∧
    disk.create name = .ok (place, outcome.disk) ∧
      outcome.disk.files.lookup place = some [] ∧
        ∀ other, other ≠ place → outcome.disk.files.lookup other = disk.files.lookup other

/-- An image that is not written leaves the files alone, unless its file has been opened. -/
theorem writeImage_cases {job : Job} (hverb : job.verb = .tobin) (disk : Disk) (log : List String)
    (memory : Memory) (extent : Extent) (room : Nat) :
    (writeImage disk log memory extent room job.output).disk = disk ∨
      (writeImage disk log memory extent room job.output).status = .exit 0 ∨
      job.Empties disk (writeImage disk log memory extent room job.output) := by
  unfold writeImage
  cases houtput : job.output with
  | standard =>
    left
    dsimp only
    split <;> rfl
  | file name =>
    dsimp only
    split
    · exact .inl rfl
    · exact .inl rfl
    · next place opened hcreate =>
      split
      · exact .inr (.inl rfl)
      · next error _ =>
        exact .inr (.inr ⟨hverb, ⟨error, rfl⟩, name, place, houtput, hcreate,
          Disk.laws.content_create disk opened name place hcreate,
          fun other => Disk.laws.content_create_of_ne disk opened name place other hcreate⟩)

/-- A job leaves the files alone, or ends well, or leaves its output file empty. -/
theorem Job.run_cases (job : Job) (verbose : Bool) (room : Nat) (disk : Disk) :
    (job.run verbose room disk).disk = disk ∨ (job.run verbose room disk).status = .exit 0 ∨
      job.Empties disk (job.run verbose room disk) := by
  cases hverb : job.verb with
  | validate =>
    rw [job.run_of_validate disk verbose room hverb]
    exact .inl (disk_afterDecoding fun _ => rfl)
  | dump =>
    rw [job.run_of_dump disk verbose room hverb]
    exact .inl (disk_afterDecoding fun _ => rfl)
  | crc32 =>
    rw [job.run_of_crc32 disk verbose room hverb]
    refine .inl (disk_afterDecoding fun run => ?_)
    split <;> rfl
  | tobin =>
    rw [job.run_of_tobin disk verbose room hverb]
    rcases decodeWhole memoryHost (some ()) {} verbose job.settings.chunkSize job.input with
      ⟨error | ⟨⟩, run⟩
    · exact .inl (disk_undecoded disk run.trace error)
    · exact writeImage_cases hverb disk (logLines run.trace) run.world.memory job.settings.extent room

/-- A run that does not end well leaves the files as they were, whatever went wrong, with one exception:
if everything was decoded and there is no image to write, the output file is empty afterwards, whether
it was there before or not. Even then no other file is touched. -/
theorem files_of_failed_run (words : List String) (standardInput : List UInt8) (disk : Disk)
    (room : Nat) (hfailed : (run words standardInput disk room).status ≠ .exit 0) :
    (run words standardInput disk room).disk = disk ∨
      ∃ (job : Job) (verbose : Bool),
        run words standardInput disk room = job.run verbose room disk ∧
          job.Empties disk (run words standardInput disk room) := by
  let call : Call := ⟨words, standardInput, disk, room⟩
  obtain ⟨verbose, job, hasks⟩ | hdisk := call.asks_or_disk_eq
  · have hrun : run words standardInput disk room = job.run verbose room disk := hasks.outcome_eq
    rw [hrun] at hfailed ⊢
    obtain hdisk | hdone | hempties := job.run_cases verbose room disk
    · exact .inl hdisk
    · exact absurd hdone hfailed
    · exact .inr ⟨job, verbose, rfl, hempties⟩
  · exact .inl hdisk

/-- A file that ends inside a record: the image that was there before is still there. -/
theorem files_of_failed_run_truncated :
    let disk : Disk := { files := [("a.hex", [0x3A, 0x30]), ("o.bin", [1, 2, 3])] }
    (run ["tobin", "a.hex", "o.bin"] [] disk 4096).status = .exit 1 ∧
      (run ["tobin", "a.hex", "o.bin"] [] disk 4096).disk = disk := by
  intro disk
  have hstatus : (run ["tobin", "a.hex", "o.bin"] [] disk 4096).status = .exit 1 := by decide +kernel
  have hfailed : (run ["tobin", "a.hex", "o.bin"] [] disk 4096).status ≠ .exit 0 := by
    rw [hstatus]
    decide
  refine ⟨hstatus, (files_of_failed_run _ [] disk 4096 hfailed).resolve_right ?_⟩
  rintro ⟨job, verbose, -, hempties⟩
  obtain ⟨error, herror⟩ := hempties.status
  cases hstatus.symm.trans herror

/-- A file without data blocks has no image up to address 5: the run breaks off, and the image that was
there before is lost. Where there was none, there is an empty file afterwards. -/
theorem image_lost_by_failed_run :
    let words := ["tobin", "-e", "5", "a.hex", "o.bin"]
    let disk : Disk := { files := [("a.hex", []), ("o.bin", [1, 2, 3])] }
    let bare : Disk := { files := [("a.hex", [])] }
    (run words [] disk 4096).status = .crashed (.image .noContent) ∧
      disk.files.lookup "o.bin" = some [1, 2, 3] ∧
      (run words [] disk 4096).disk.files.lookup "o.bin" = some [] ∧
      (run words [] bare 4096).status = .crashed (.image .noContent) ∧
      bare.files.lookup "o.bin" = none ∧
      (run words [] bare 4096).disk.files.lookup "o.bin" = some [] := by
  decide +kernel

end IntelHex.Cli
