import FacetSearch.Approval
import FacetSearch.Clock
import FacetSearch.Index.SearchApi
import FacetSearch.Service
import FacetSearch.Proofs.Relink
import FacetSearch.Proofs.Outcome
import FacetSearch.Proofs.PlanMeaning
import FacetSearch.Proofs.Facet.Pipeline
import FacetSearch.Proofs.Tilde.Runs
import FacetSearch.Proofs.Params
import FacetSearch.Proofs.Tilde.RunReading
import FacetSearch.Proofs.Readable
import FacetSearch.Proofs.Tokens.RoundTrip
import FacetSearch.Proofs.Clauses
import FacetSearch.Proofs.Calls
import FacetSearch.Proofs.FirstFailure
import FacetSearch.Proofs.Paging
import FacetSearch.Proofs.Suggestions
import FacetSearch.Proofs.SameValues
import FacetSearch.Proofs.Erasure
import FacetSearch.Proofs.CallDiscipline
import FacetSearch.Proofs.Characteristic
import FacetSearch.Proofs.SearchApi.Transparent
import FacetSearch.Proofs.Facet.Interference
import FacetSearch.Proofs.PageText
import FacetSearch.Proofs.Calendar
import FacetSearch.Proofs.Weeks
import FacetSearch.Proofs.TopTerms
import FacetSearch.Proofs.Order.Runs
import FacetSearch.Proofs.Wording
