import PageExtract.Main
import PageExtract.TaggedTree
import PageExtract.Proofs.Rule.Grammar
import PageExtract.Proofs.Rule.WellFormed
import PageExtract.Proofs.Rule.Canonical
import PageExtract.Proofs.Evaluation.Faults
import PageExtract.Proofs.Rule.Margins
import PageExtract.Proofs.Extraction.Agreement
import PageExtract.Proofs.Evaluation.Alternatives
import PageExtract.Proofs.Evaluation.Leaves
import PageExtract.Proofs.Rule.Blame
import PageExtract.Proofs.Rule.Tiling
import PageExtract.Proofs.Rule.Spelling
import PageExtract.Proofs.Extraction.Composition
import PageExtract.Proofs.Extraction.Validation
import PageExtract.Proofs.Evaluation.Correspondence
import PageExtract.Proofs.Evaluation.Rejections
import PageExtract.Proofs.Rule.Respacing
import PageExtract.Proofs.Extraction.CleanValues
import PageExtract.Proofs.Evaluation.Malformed
import PageExtract.Proofs.Rule.Steps
import PageExtract.Proofs.Rule.QuotedReturns
import PageExtract.Proofs.Extraction.Nesting
import PageExtract.Proofs.Json.Quoted
import PageExtract.Proofs.Json.Number
import PageExtract.Proofs.Extraction.Decoding
import PageExtract.Proofs.Page.Places
import PageExtract.Proofs.Css.Search
import PageExtract.Proofs.Css.Matches
import PageExtract.Proofs.Page.Queries
import PageExtract.Proofs.Json.WellFormed
import PageExtract.Proofs.Json.Object
import PageExtract.Proofs.Extraction.RuleObjects
import PageExtract.Proofs.CommandLine.Reports
