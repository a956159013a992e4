import HeaderEnum.Main
import HeaderEnum.Proofs.Header.Grammar
import HeaderEnum.Proofs.Header.Distinct
import HeaderEnum.Proofs.Header.Search
import HeaderEnum.Proofs.Naming.Tokens
import HeaderEnum.Proofs.Naming.AsciiNames
import HeaderEnum.Proofs.Naming.IdentifierForm
import HeaderEnum.Proofs.Naming.Survivors
import HeaderEnum.Proofs.Swift.Acceptance
import HeaderEnum.Proofs.Swift.CaseNames
import HeaderEnum.Proofs.Disk.Directories
import HeaderEnum.Proofs.Disk.Replacement
import HeaderEnum.Proofs.Run.Effect
import HeaderEnum.Proofs.Disk.Sequence
import HeaderEnum.Proofs.Settings.Placement
import HeaderEnum.Proofs.Settings.Precedence
import HeaderEnum.Proofs.Swift.FileLines
import HeaderEnum.Proofs.Swift.Reading
import HeaderEnum.Proofs.Swift.TwoForms
import HeaderEnum.Proofs.Swift.Decoding
import HeaderEnum.Proofs.Naming.Quoting
import HeaderEnum.Proofs.Disk.Rewriting
import HeaderEnum.Proofs.Run.Course
import HeaderEnum.Proofs.Run.Repetition
import HeaderEnum.Proofs.Run.Messages
import HeaderEnum.Proofs.Settings.Format
import HeaderEnum.Proofs.Header.LineEnds
import HeaderEnum.Proofs.Naming.ChangedHeader
import HeaderEnum.Proofs.Naming.IdentifierProjection
import HeaderEnum.Proofs.Naming.KeptLetters
import HeaderEnum.Proofs.Naming.CamelCase
import HeaderEnum.Proofs.Naming.LongestAffix
import HeaderEnum.Proofs.Naming.Ownership
import HeaderEnum.Proofs.Swift.Agreement
import HeaderEnum.Proofs.Disk.FailedWrite
import HeaderEnum.Proofs.Disk.RootedPaths
import HeaderEnum.Proofs.Disk.ScratchRoom
import HeaderEnum.Proofs.Settings.AnchoredPaths
import HeaderEnum.Proofs.Run.WorkingDirectory
import HeaderEnum.Proofs.Path.NormalForm
import HeaderEnum.Proofs.CommandLine.AttachedValues
import HeaderEnum.Proofs.Swift.RenderedMarkers
