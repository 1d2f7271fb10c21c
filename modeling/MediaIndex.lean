import MediaIndex.Cache.Edit
import MediaIndex.Main
import MediaIndex.Proofs.Cache.History
import MediaIndex.Proofs.Cache.Statistics
import MediaIndex.Proofs.Cache.Sweep
import MediaIndex.Proofs.Cue.Inheritance
import MediaIndex.Proofs.Cue.Lengths
import MediaIndex.Proofs.Cue.PassedOver
import MediaIndex.Proofs.Cue.Probing
import MediaIndex.Proofs.Cue.ReferenceTexts
import MediaIndex.Proofs.Cue.WrittenSheets
import MediaIndex.Proofs.Indexing.Accounting
import MediaIndex.Proofs.Indexing.Fixpoint
import MediaIndex.Proofs.Indexing.Marks
import MediaIndex.Proofs.Indexing.Rescans
import MediaIndex.Proofs.Indexing.Resolving
import MediaIndex.Proofs.Indexing.SongTags
import MediaIndex.Proofs.Indexing.Sweeping
import MediaIndex.Proofs.Indexing.Writes
import MediaIndex.Proofs.Probe.Chain
import MediaIndex.Proofs.Probe.Thumbnails
import MediaIndex.Proofs.Quantity.Alternatives
import MediaIndex.Proofs.Quantity.Zeros
import MediaIndex.Proofs.Recognition.Renaming
import MediaIndex.Proofs.Recognition.SharedWords
import MediaIndex.Proofs.Report.Chapters
import MediaIndex.Proofs.Report.Kept
import MediaIndex.Proofs.Report.Parts
import MediaIndex.Proofs.Report.Preamble
import MediaIndex.Proofs.Report.Profiles
import MediaIndex.Proofs.Report.Streams
import MediaIndex.Proofs.Sharing
import MediaIndex.Proofs.Survey.ClosedTracks
import MediaIndex.Proofs.Survey.Closing
import MediaIndex.Proofs.Survey.FirstVideo
import MediaIndex.Proofs.Survey.Versions
