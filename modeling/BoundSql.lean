import BoundSql.Inspection
import BoundSql.Proofs.BindingCopies
import BoundSql.Proofs.ConditionReading
import BoundSql.Proofs.DerivedCompilers
import BoundSql.Proofs.DirectKeyword
import BoundSql.Proofs.KeywordOccurrences
import BoundSql.Proofs.PlaceholderNumbers
import BoundSql.Proofs.RecordHistories
import BoundSql.Proofs.RenderedRows
import BoundSql.Proofs.SlotHistories
import BoundSql.Proofs.StringReading
import BoundSql.Proofs.StyledNames
import BoundSql.Proofs.TemplateShapes
import BoundSql.Proofs.TypeDocuments
import BoundSql.Proofs.TypeTexts
import BoundSql.Proofs.UnknownNames
import BoundSql.Proofs.ValueSpines
