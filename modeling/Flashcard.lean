import Flashcard.Main
import Flashcard.Proofs.Text.Folding
import Flashcard.Proofs.Text.Literal
import Flashcard.Proofs.Text.Scan
import Flashcard.Storage.Encoding
import Flashcard.Tool.FileTree
import Flashcard.Proofs.Directive.Tag
import Flashcard.Proofs.Directive.Slot
import Flashcard.Proofs.Directive.Deletion
import Flashcard.Proofs.BuiltIn
import Flashcard.Proofs.TemplateTree
import Flashcard.Proofs.FieldReading
import Flashcard.Proofs.StandardCard
import Flashcard.Proofs.ClozeValue
import Flashcard.Proofs.ClozeCard
import Flashcard.Proofs.HiddenAnswers
import Flashcard.Proofs.Openings
import Flashcard.Proofs.Text.Decimal
import Flashcard.Proofs.Enumeration
import Flashcard.Proofs.Directive.Unclosed
import Flashcard.Proofs.UsedDirectives
import Flashcard.Proofs.StandardOrdinals
import Flashcard.Proofs.ListedCards
import Flashcard.Proofs.RemovedSlots
import Flashcard.Proofs.NoteCards
import Flashcard.Proofs.RendererChanges
import Flashcard.Proofs.Uuid
import Flashcard.Proofs.Timestamp
import Flashcard.Proofs.Json.Rearrangement
import Flashcard.Proofs.Storage.StoredForm
import Flashcard.Proofs.Text.Leftmost
import Flashcard.Proofs.DeletionGrammar
import Flashcard.Proofs.PreviewCards
import Flashcard.Proofs.Expression
import Flashcard.Proofs.Directive.Groups
import Flashcard.Proofs.GroupReading
import Flashcard.Proofs.Failures
import Flashcard.Proofs.Tool.OutputFiles
import Flashcard.Proofs.SlotGrammar
import Flashcard.Proofs.FieldDirectives
import Flashcard.Proofs.Html.LineEnds
import Flashcard.Proofs.Html.OpenText
import Flashcard.Proofs.Html.PlainText
import Flashcard.Proofs.Html.RawText
import Flashcard.Proofs.Html.StyleText
import Flashcard.Proofs.Html.PageText
import Flashcard.Proofs.Text.Words
import Flashcard.Proofs.Tool.Summary
import Flashcard.Proofs.MatchRewriting
