import SqlCompose.Dialect.Custom
import SqlCompose.Program.Run
import SqlCompose.Schema.Json
import SqlCompose.Schema.Render
import SqlCompose.Proofs.Contribution
import SqlCompose.Proofs.Numbering
import SqlCompose.Proofs.BindingStore
import SqlCompose.Proofs.Reachable
import SqlCompose.Proofs.Programs
import SqlCompose.Proofs.Alignment
import SqlCompose.Proofs.InPlace
import SqlCompose.Proofs.Atomicity
import SqlCompose.Proofs.Operators
import SqlCompose.Proofs.Readers
import SqlCompose.Proofs.QuotedNames
import SqlCompose.Proofs.Names
import SqlCompose.Proofs.Skeleton
import SqlCompose.Proofs.Decodable
import SqlCompose.Proofs.Statements
import SqlCompose.Proofs.Calls
import SqlCompose.Proofs.Independence
import SqlCompose.Proofs.Offsets
import SqlCompose.Proofs.Nulls
import SqlCompose.Proofs.Unbound
import SqlCompose.Proofs.Alike
import SqlCompose.Proofs.AlikeCalls
import SqlCompose.Proofs.ValueBlind
import SqlCompose.Proofs.Validation
import SqlCompose.Proofs.Enclosures
import SqlCompose.Proofs.SchemaStatements
import SqlCompose.Proofs.Numerals
import SqlCompose.Proofs.Tokens
import SqlCompose.Proofs.Documents
import SqlCompose.Proofs.Layouts
import SqlCompose.Proofs.Descriptors
import SqlCompose.Proofs.QueryColumns
import SqlCompose.Proofs.ArgumentLists
import SqlCompose.Proofs.PositionalCalls
import SqlCompose.Proofs.ConditionLists
import SqlCompose.Proofs.Disjunctions
import SqlCompose.Proofs.OperatorSpellings
import SqlCompose.Proofs.IndexComments
import SqlCompose.Proofs.RelatedArguments
import SqlCompose.Proofs.Matching
import SqlCompose.Proofs.MatchingCalls
import SqlCompose.Proofs.Exchange
import SqlCompose.Proofs.Settled
import SqlCompose.Proofs.Moves
import SqlCompose.Proofs.TypeSizes
import SqlCompose.Proofs.AutoNumbering
import SqlCompose.Proofs.Configurations
import SqlCompose.Proofs.EnumNames
