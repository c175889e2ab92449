import CharGrammar.Text.Basic
import CharGrammar.Text.Escape
import CharGrammar.Text.Quoted
import CharGrammar.Text.Ranges
import CharGrammar.Text.Unprintable
import CharGrammar.Text.ExtendingMark
import CharGrammar.Text.DefaultIgnorable
import CharGrammar.Text.Hidden
import CharGrammar.Text.Uppercase
import CharGrammar.Value
import CharGrammar.Error
import CharGrammar.Result
import CharGrammar.Transform
import CharGrammar.Trace.Column
import CharGrammar.Trace.Record
import CharGrammar.Trace.Journal
import CharGrammar.Grammar.Basic
import CharGrammar.Grammar.Fold
import CharGrammar.Grammar.Tree
import CharGrammar.Grammar.Stock
import CharGrammar.CharClass
import CharGrammar.Definitions
import CharGrammar.Recipes
import CharGrammar.Direction
import CharGrammar.Blueprint
import CharGrammar.Session
import CharGrammar.Proofs.Built
import CharGrammar.Proofs.Lossless
import CharGrammar.Proofs.Language
import CharGrammar.Proofs.OrderedChoice
import CharGrammar.Proofs.Completion
import CharGrammar.Proofs.Rewriting
import CharGrammar.Proofs.GenuineErrors
import CharGrammar.Proofs.Scoping
import CharGrammar.Proofs.Suffix
import CharGrammar.Proofs.LastRecord
import CharGrammar.Proofs.RunOnce
import CharGrammar.Proofs.Unlabelling
import CharGrammar.Proofs.Replacement
import CharGrammar.Proofs.TreeLayout
import CharGrammar.Proofs.Quoting
import CharGrammar.Proofs.TreeOutline
import CharGrammar.Proofs.Additions
import CharGrammar.Proofs.Bracketing
import CharGrammar.Proofs.FirstSuccess
import CharGrammar.Proofs.FailFast
import CharGrammar.Proofs.ExactWord
import CharGrammar.Proofs.Keywords
import CharGrammar.Proofs.Lookahead
import CharGrammar.Proofs.ClassMembership
import CharGrammar.Proofs.FlatForm
import CharGrammar.Proofs.Readback
import CharGrammar.Proofs.Rendering
import CharGrammar.Proofs.Truncation
import CharGrammar.Proofs.ShortTexts
import CharGrammar.Proofs.MessageLayout
import CharGrammar.Proofs.DirectionNames
import CharGrammar.Proofs.TypeNames
