import ActiveRules.Configuration
import ActiveRules.View.Order
import ActiveRules.View.Stepwise
import ActiveRules.Registry.Program
import ActiveRules.Proofs.Numerals
import ActiveRules.Proofs.Decimals
import ActiveRules.Proofs.TokenKinds
import ActiveRules.Proofs.Lexemes
import ActiveRules.Proofs.WrittenRules
import ActiveRules.Proofs.Grammar
import ActiveRules.Proofs.Readers
import ActiveRules.Proofs.Sentences
import ActiveRules.Proofs.Spans
import ActiveRules.Proofs.Acceptance
import ActiveRules.Proofs.RoundTrip
import ActiveRules.Proofs.Rereading
import ActiveRules.Proofs.Stream
import ActiveRules.Proofs.FirstOffence
import ActiveRules.Proofs.Expectations
import ActiveRules.Proofs.Trivia
import ActiveRules.Proofs.Tiling
import ActiveRules.Proofs.Lines
import ActiveRules.Proofs.Separation
import ActiveRules.Proofs.Layout
import ActiveRules.Proofs.Calls
import ActiveRules.Proofs.Containment
import ActiveRules.Proofs.DueCallbacks
import ActiveRules.Proofs.Registries
import ActiveRules.Proofs.SharedWalks
import ActiveRules.Proofs.TrailingSpace
import ActiveRules.Proofs.EntryReports
import ActiveRules.Proofs.Counterparts
import ActiveRules.Proofs.Reactions
import ActiveRules.Proofs.Loading
import ActiveRules.Proofs.SavedRules
import ActiveRules.Proofs.Warnings
import ActiveRules.Proofs.ShortCircuits
import ActiveRules.Proofs.Atomicity
import ActiveRules.Proofs.Narrowing
import ActiveRules.Proofs.Coherence
import ActiveRules.Proofs.Rounding
import ActiveRules.Proofs.ExactValues
import ActiveRules.Proofs.ExactOrder
import ActiveRules.Proofs.Opacity
import ActiveRules.Proofs.WellFormedness
import ActiveRules.Proofs.Comments
import ActiveRules.Proofs.StringLiterals
import ActiveRules.Proofs.Replay
import ActiveRules.Proofs.NearestNumbers
import ActiveRules.Proofs.NumberLiterals
