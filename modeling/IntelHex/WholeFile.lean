import IntelHex.Source

/-!
# Decoding whole files

A file is decoded by a new decoder from its beginning to its end. It has to end between two records.
-/

namespace IntelHex

/-- Why a file was not decoded. -/
inductive FileError
  /-- The input ended early. -/
  | refused (error : DecodingError)
  /-- The end came inside a record. -/
  | truncated (line : Nat)
  /-- The decoder did not return. -/
  | aborted (abort : Abort)
deriving DecidableEq, Repr

/-- The wording of a file that was not decoded. -/
def FileError.message : FileError → String
  | .refused error => "line " ++ toString error.line ++ ": " ++ error.message
  | .truncated line => "line " ++ toString line ++ ": truncated record"
  | .aborted abort => abort.message

/-- The decoder of whole files, with the default buffer size and record types. -/
def fileDecoder {κ : Type} (consumer : Option κ) : Decoder κ :=
  .fresh consumer Decoder.defaultCapacity Decoder.defaultSupported

/-- Decodes a whole file in chunks of the given size. -/
def decodeWhole {κ σ : Type} (host : Host κ σ) (consumer : Option κ) (world : σ) (traced : Bool)
    (size : Int) (source : Source) : Except FileError Unit × Run κ σ :=
  match (Run.start (fileDecoder consumer) world traced).feedSource host size source with
  | (.error abort, run, _) => (.error (.aborted abort), run)
  | (.ok (.refused error), run, _) => (.error (.refused error), run)
  | (.ok .accepted, run, _) =>
    if run.decoder.phase = .start then (.ok (), run)
    else (.error (.truncated run.decoder.position.line), run)

end IntelHex
