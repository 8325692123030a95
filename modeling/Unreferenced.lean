import Unreferenced.Main
import Unreferenced.Proofs.Extraction
import Unreferenced.Proofs.ReferenceCount
import Unreferenced.Proofs.RulesAsFilter
import Unreferenced.Proofs.DeclarationName
import Unreferenced.Proofs.LiteralGrammar
import Unreferenced.Proofs.SelfCount
import Unreferenced.Proofs.StaleRules
import Unreferenced.Proofs.FusedIdentifiers
import Unreferenced.Proofs.SettledCode
import Unreferenced.Proofs.CommentLines
import Unreferenced.Proofs.CountByEntry
import Unreferenced.Proofs.FileOrder
import Unreferenced.Proofs.PatternReading
import Unreferenced.Proofs.PatternLimits
import Unreferenced.Proofs.RuleLines
import Unreferenced.Proofs.HintLine
import Unreferenced.Proofs.OwnFile
import Unreferenced.Proofs.AddedFiles
import Unreferenced.Proofs.LiteralText
import Unreferenced.Proofs.GivenOptions
import Unreferenced.Proofs.RunEffect
import Unreferenced.Proofs.DeclaringWord
import Unreferenced.Proofs.LineNumbers
import Unreferenced.Proofs.AttributePlaces
import Unreferenced.Proofs.CleanedLines
import Unreferenced.Proofs.CollectedFiles
import Unreferenced.Proofs.EqualRules
import Unreferenced.Proofs.ReadFiles
import Unreferenced.Proofs.UnreadableFiles
import Unreferenced.Proofs.JsonDecoding
import Unreferenced.Proofs.JsonRoundTrip
import Unreferenced.Proofs.ReportContents
import Unreferenced.Proofs.Deletions
import Unreferenced.Proofs.IdentifierPlaces
import Unreferenced.Proofs.ScanProgress
