import DigestRecord.Main
import DigestRecord.FileSystem.Source
import DigestRecord.Record.Reading
import DigestRecord.Decimal
import DigestRecord.Proofs.Text.Digits
import DigestRecord.Proofs.Text.Folding
import DigestRecord.Proofs.Text.Printing
import DigestRecord.Proofs.Text.ControlSequences
import DigestRecord.Proofs.Hashing.Turns
import DigestRecord.Proofs.Hashing.SoundReads
import DigestRecord.Proofs.Hashing.Protocol
import DigestRecord.Proofs.Hashing.Notices
import DigestRecord.Proofs.Hashing.FirstFault
import DigestRecord.Proofs.Hashing.Closing
import DigestRecord.Proofs.Hashing.Pieces
import DigestRecord.Proofs.Hashing.Chunks
import DigestRecord.Proofs.Hashing.LogLines
import DigestRecord.Proofs.Hashing.Malfunctions
import DigestRecord.Proofs.FileSystem.Contents
import DigestRecord.Proofs.FileSystem.Resolution
import DigestRecord.Proofs.FileSystem.NormalForm
import DigestRecord.Proofs.FileSystem.PurePaths
import DigestRecord.Proofs.Json.Scanning
import DigestRecord.Proofs.Json.Strings
import DigestRecord.Proofs.Json.Documents
import DigestRecord.Proofs.Json.Limits
import DigestRecord.Proofs.Json.Unambiguous
import DigestRecord.Proofs.Json.Respelling
import DigestRecord.Proofs.Json.Nesting
import DigestRecord.Proofs.Json.ShownValues
import DigestRecord.Proofs.Record.Checking
import DigestRecord.Proofs.Record.Lines
import DigestRecord.Proofs.Record.Pattern
import DigestRecord.Proofs.Record.Language
import DigestRecord.Proofs.Record.RoundTrip
import DigestRecord.Proofs.Record.Canonical
import DigestRecord.Proofs.Record.Refusals
import DigestRecord.Proofs.Record.Defects
import DigestRecord.Proofs.Record.Independence
import DigestRecord.Proofs.Record.Messages
import DigestRecord.Proofs.Record.Distinct
import DigestRecord.Proofs.Record.DigestText
import DigestRecord.Proofs.CommandLine.Libraries
import DigestRecord.Proofs.CommandLine.Answers
import DigestRecord.Proofs.CommandLine.Statuses
import DigestRecord.Proofs.CommandLine.Verbosity
import DigestRecord.Proofs.CommandLine.Arguments
