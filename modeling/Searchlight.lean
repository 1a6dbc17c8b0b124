import Searchlight.Main
import Searchlight.Query.Trace
import Searchlight.Proofs.Analysis.Analyze
import Searchlight.Proofs.Analysis.Highlight
import Searchlight.Proofs.Analysis.Phrase
import Searchlight.Proofs.Analysis.Wildcard
import Searchlight.Proofs.Command.Documents
import Searchlight.Proofs.Config.Check
import Searchlight.Proofs.Config.Collision
import Searchlight.Proofs.Config.Discovery
import Searchlight.Proofs.Config.RoundTrip
import Searchlight.Proofs.Config.Shadowing
import Searchlight.Proofs.Display.Styling
import Searchlight.Proofs.Field.Aliases
import Searchlight.Proofs.Expr.Embedding
import Searchlight.Proofs.Expr.RoundTrip
import Searchlight.Proofs.Expr.WellFormed
import Searchlight.Proofs.Grammar.Stopping
import Searchlight.Proofs.Query.Document
import Searchlight.Proofs.Query.Echo
import Searchlight.Proofs.Query.Meaning
import Searchlight.Proofs.Query.Naming
import Searchlight.Proofs.Query.Negation
import Searchlight.Proofs.Query.Occurrence
import Searchlight.Proofs.Query.Outline
import Searchlight.Proofs.Query.Quoting
import Searchlight.Proofs.Query.Representable
import Searchlight.Proofs.Query.Scoping
import Searchlight.Proofs.Query.UnitBoost
import Searchlight.Proofs.Regex.Source
import Searchlight.Proofs.Token.Layout
