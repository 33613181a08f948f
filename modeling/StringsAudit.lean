import StringsAudit.Main
import StringsAudit.World
import StringsAudit.Proofs.Comment.Marker
import StringsAudit.Proofs.Comment.LineScan
import StringsAudit.Proofs.Comment.Stripping
import StringsAudit.Proofs.Comment.Block
import StringsAudit.Proofs.Line.Content
import StringsAudit.Proofs.Text.Occurrence
import StringsAudit.Proofs.Assignments
import StringsAudit.Proofs.StringsFile.EntryLine
import StringsAudit.Proofs.StringsFile.RoundTrip
import StringsAudit.Proofs.Comment.LineInContent
import StringsAudit.Proofs.StringsFile.TrailingComment
import StringsAudit.Proofs.Dict
import StringsAudit.Proofs.Line.Number
import StringsAudit.Proofs.StringsFile.LineCounts
import StringsAudit.Proofs.Path.Parent
import StringsAudit.Proofs.LocaleFolder.GroupName
import StringsAudit.Proofs.World.Resolve
import StringsAudit.Proofs.ConfigFile.Search
import StringsAudit.Proofs.Pattern.Run
import StringsAudit.Proofs.UsagePattern.Standard
import StringsAudit.Proofs.UsedKeys
import StringsAudit.Proofs.SourceFile.TrailingComment
import StringsAudit.Proofs.Sorting
import StringsAudit.Proofs.Check.Group
import StringsAudit.Proofs.Check.Usage
import StringsAudit.Proofs.Audit.ExitStatus
import StringsAudit.Proofs.Audit.Rule
import StringsAudit.Proofs.Audit.PrimaryLocale
import StringsAudit.Proofs.Project.Loading
import StringsAudit.Proofs.Project.FileOrder
import StringsAudit.Proofs.Project.UnreadableFiles
import StringsAudit.Proofs.Audit.RuleOrder
import StringsAudit.Proofs.Check.Classification
import StringsAudit.Proofs.Config.Validity
import StringsAudit.Proofs.ConfigFile.Loading
import StringsAudit.Proofs.Project.Failure
import StringsAudit.Proofs.Report.Success
import StringsAudit.Proofs.Project.Databases
import StringsAudit.Proofs.Comment.Limit
import StringsAudit.Proofs.Comment.Unlimited
import StringsAudit.Proofs.StringsFile.ReadBack
import StringsAudit.Proofs.World.Deletion
import StringsAudit.Proofs.Project.Ignored
import StringsAudit.Proofs.Comment.UnreachedLimit
import StringsAudit.Proofs.Pattern.Matches
import StringsAudit.Proofs.Pattern.Captures
import StringsAudit.Proofs.UsagePattern.LeftmostSearch
import StringsAudit.Proofs.SourceFile.Sites
import StringsAudit.Proofs.Comment.InertLines
import StringsAudit.Proofs.StringsFile.InertLines
import StringsAudit.Proofs.Line.Endings
import StringsAudit.Proofs.Check.SharedValues
import StringsAudit.Proofs.Check.VisitOrder
import StringsAudit.Proofs.LocaleGroup.PrimaryFirst
import StringsAudit.Proofs.UsedKeys.History
import StringsAudit.Proofs.Text.ByteOrder
import StringsAudit.Proofs.Path.Order
import StringsAudit.Proofs.World.Walk
import StringsAudit.Proofs.LocaleFolder.FirstFolder
import StringsAudit.Proofs.Scan.Lists
import StringsAudit.Proofs.Text.Styled
import StringsAudit.Proofs.Report.Lines
import StringsAudit.Proofs.Report.Summary
import StringsAudit.Proofs.Report.Colors
import StringsAudit.Proofs.Report.Quotes
import StringsAudit.Proofs.World.Creation
import StringsAudit.Proofs.Run.Check
import StringsAudit.Proofs.Json.Strings
import StringsAudit.Proofs.Json.ReadBack
import StringsAudit.Proofs.Config.ReadBack
import StringsAudit.Proofs.ConfigFile.Creation
import StringsAudit.Proofs.Project.UnusedFile
import StringsAudit.Proofs.Run.Initialization
import StringsAudit.Proofs.Text.Packing
import StringsAudit.Proofs.Comment.KeptLines
import StringsAudit.Proofs.LocaleFolder.NameAndGroup
