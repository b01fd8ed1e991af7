import ValueSets.Exports.Library
import ValueSets.Proofs.Batches
import ValueSets.Proofs.Cardinality
import ValueSets.Proofs.Deletion
import ValueSets.Proofs.ElementTypes
import ValueSets.Proofs.Equivalence
import ValueSets.Proofs.Expressions
import ValueSets.Proofs.Failures
import ValueSets.Proofs.Listing
import ValueSets.Proofs.MixedTypes
import ValueSets.Proofs.Collection.Untyped
import ValueSets.Proofs.Session.History
import ValueSets.Proofs.Session.Simple
import ValueSets.Proofs.SmallerOperand
import ValueSets.Proofs.Value.Listed
import ValueSets.Proofs.Sorting.Agreement
import ValueSets.Proofs.Wording
import ValueSets.SetError.Making
import ValueSets.Proofs.Session.Twins
import ValueSets.Proofs.Session.TwinTerms
import ValueSets.Proofs.Session.TwinSteps
import ValueSets.Proofs.Session.TwinCalls
import ValueSets.Proofs.Session.SortKeys
import ValueSets.Proofs.Session.TwinOperations
import ValueSets.Proofs.Session.TwinSets
import ValueSets.Proofs.Session.TwinAnswers
import ValueSets.Proofs.Replacement
import ValueSets.Proofs.Kinds
import ValueSets.Proofs.SymmetricDifference
import ValueSets.Proofs.KeyedListing
import ValueSets.Proofs.Copies
import ValueSets.Proofs.Popping
import ValueSets.Proofs.Operators
import ValueSets.Proofs.Construction
import ValueSets.Proofs.ConfiguredTypes
import ValueSets.Proofs.CommonKind
import ValueSets.Proofs.Exports
