import Retrace.Main
import Retrace.Proofs.Attempt
import Retrace.Proofs.Draft
import Retrace.Proofs.Graph
import Retrace.Proofs.Outline
import Retrace.Proofs.Reconstruction
import Retrace.Proofs.Script
import Retrace.Proofs.Session
import Retrace.Proofs.Chaining.Citations
import Retrace.Proofs.Chaining.Conclusion
import Retrace.Proofs.Chaining.Scoping
import Retrace.Proofs.Clause.Parting
import Retrace.Proofs.Clause.Reader
import Retrace.Proofs.Draft.Fits
import Retrace.Proofs.Draft.Quotations
import Retrace.Proofs.Draft.Trace
import Retrace.Proofs.Formula.Application
import Retrace.Proofs.Formula.Balance
import Retrace.Proofs.Formula.Characters
import Retrace.Proofs.Formula.Currying
import Retrace.Proofs.Formula.Delimited
import Retrace.Proofs.Formula.Extents
import Retrace.Proofs.Formula.Grammar
import Retrace.Proofs.Formula.Groups
import Retrace.Proofs.Formula.Pairs
import Retrace.Proofs.Formula.Quoting
import Retrace.Proofs.Formula.Scope
import Retrace.Proofs.Formula.Spans
import Retrace.Proofs.Formula.Symbol
import Retrace.Proofs.Formula.Untouched
import Retrace.Proofs.Formula.Verbatim
import Retrace.Proofs.Graph.Insertions
import Retrace.Proofs.Justification.Fields
import Retrace.Proofs.Justification.Information
import Retrace.Proofs.Justification.Listing
import Retrace.Proofs.Justification.Source
import Retrace.Proofs.Justification.Theory
import Retrace.Proofs.Outline.Calls
import Retrace.Proofs.Reconstruction.Parallel
import Retrace.Proofs.Reconstruction.Room
import Retrace.Proofs.Script.Comments
import Retrace.Proofs.Script.Quotation
import Retrace.Proofs.Script.Room
import Retrace.Proofs.Script.Wording
import Retrace.Proofs.Session.Blocks
import Retrace.Proofs.Session.Bytes
import Retrace.Proofs.Session.Drain
import Retrace.Proofs.Session.Figures
import Retrace.Proofs.Session.Lockstep
import Retrace.Proofs.Session.Quotations
import Retrace.Proofs.Session.Room
import Retrace.Proofs.Session.Run
import Retrace.Proofs.Session.Verbose
import Retrace.Proofs.Session.Verdict
import Retrace.Proofs.Tableau.Entailment
import Retrace.Proofs.Tableau.Labels
import Retrace.Proofs.Tableau.Scoping
import Retrace.Proofs.Tableau.Soundness
import Retrace.Proofs.Tableau.Wording
import Retrace.Proofs.Text.Encoding
