import KeywordContract.Bundled.FileTree
import KeywordContract.Main
import KeywordContract.Proofs.Bundled.Lookups
import KeywordContract.Proofs.Catalogue.Documentation
import KeywordContract.Proofs.Catalogue.Outcomes
import KeywordContract.Proofs.Catalogue.Sources
import KeywordContract.Proofs.Doc.Summary
import KeywordContract.Proofs.Location
import KeywordContract.Proofs.Registry.Styles
import KeywordContract.Proofs.Signature.Binding
import KeywordContract.Proofs.Signature.Faults
import KeywordContract.Proofs.Signature.Rejection
import KeywordContract.Proofs.Signature.Written
import KeywordContract.Proofs.TypeHint.Names
import KeywordContract.Proofs.TypeHint.Places
import KeywordContract.Proofs.TypeHint.Stability
import KeywordContract.Proofs.TypeHint.Written
import KeywordContract.Proofs.Catalogue.Tags
import KeywordContract.Proofs.Signature.Recorded
import KeywordContract.Proofs.CommandLine.Arguments
import KeywordContract.Proofs.CommandLine.Run
