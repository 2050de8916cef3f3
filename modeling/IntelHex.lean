import IntelHex.Main
import IntelHex.Session
import IntelHex.Proofs.Feeding
import IntelHex.Proofs.Operation
import IntelHex.Proofs.Soundness
import IntelHex.Proofs.Chunking
import IntelHex.Proofs.Digits
import IntelHex.Proofs.Grammar
import IntelHex.Proofs.Fields
import IntelHex.Proofs.Midway
import IntelHex.Proofs.Division
import IntelHex.Proofs.Reading
import IntelHex.Proofs.Language
import IntelHex.Proofs.Refusal
import IntelHex.Proofs.Coupling
import IntelHex.Proofs.Renewal
import IntelHex.Proofs.Journal
import IntelHex.Proofs.Offers
import IntelHex.Proofs.Oversize
import IntelHex.Proofs.Effects
import IntelHex.Proofs.Overlay
import IntelHex.Proofs.Stopping
import IntelHex.Proofs.Lines
import IntelHex.Proofs.Corruption
import IntelHex.Proofs.Imaging
import IntelHex.Proofs.Judging
import IntelHex.Proofs.FailedRuns
import IntelHex.Proofs.Skipping
import IntelHex.Proofs.Capacity
import IntelHex.Proofs.Lead
import IntelHex.Proofs.Restart
import IntelHex.Proofs.Standstill
import IntelHex.Proofs.History
import IntelHex.Proofs.Whereabouts
import IntelHex.Proofs.WriteOnce
import IntelHex.Proofs.Reordering
import IntelHex.Proofs.CheckValues
import IntelHex.Proofs.Addresses
import IntelHex.Proofs.HexText
import IntelHex.Proofs.Listings
import IntelHex.Proofs.Logging
import IntelHex.Proofs.NumeralForms
import IntelHex.Proofs.Payloads
