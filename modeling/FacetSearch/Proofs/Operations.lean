import FacetSearch.Proofs.Calls
import FacetSearch.Proofs.Outcome
import FacetSearch.Service

/-!
# What a service is asked for

A user of a service searches, looks for similar titles or documents, or has a filter completed: these
are its operations (`Operation`), and `Service.perform` carries one out. The settings for similar
documents should name fields by texts (`SimilarityConfig.WellFormed`); then a group is a list of names,
and an unknown group an empty one (`exists_groupFields`).
-/

namespace FacetSearch

variable {σ α : Type}

/-- What a user can ask of a service. -/
inductive Operation where
  | search (request : SearchRequest)
  /-- A negative id leaves no document out. -/
  | similarTitles (title : String) (excludeId : Int)
  | similarDocuments (documentId : Value) (group : String)
  | autocomplete (field : Field) (typed : String)

/-- What an operation finds. -/
inductive Finding (α : Type) where
  | page (result : SearchResult α)
  | titles (found : List TitleMatch)
  | documents (found : List α) (terms : List TermWeight)
  | values (found : List Value)

namespace Service

def perform (s : Service σ α) : Operation → Call σ (Finding α)
  | .search request => .page <$> s.search request
  | .similarTitles title excludeId => .titles <$> s.similarTitles (.str title) (.ofInt excludeId)
  | .similarDocuments documentId group =>
    (fun d => .documents d.1 d.2) <$> s.similarDocuments documentId (.str group)
  | .autocomplete field typed => .values <$> s.autocomplete field (.str typed)

/-- The same service over another index. -/
def withClient {τ : Type} (s : Service σ α) (client : IndexClient τ) : Service τ α where
  catalog := s.catalog
  client := client
  config := s.config
  seed := s.seed
  mapHit := s.mapHit

end Service

namespace SimilarityConfig

/-- Fields are named by texts. -/
structure WellFormed (c : SimilarityConfig) : Prop where
  fieldGroups : ∃ groups : Record String (List String),
    c.fieldGroups = .object (groups.map fun g => (g.1, .arr (g.2.map .str)))
  idField : ∃ name, c.idField = .str name
  titleField : ∃ name, c.titleField = .str name
  titleSourceFields : ∃ names : List String, c.titleSourceFields = .arr (names.map .str)

theorem wellFormed_default : WellFormed {} where
  fieldGroups := ⟨[("title/description", ["title.analyzed", "description.analyzed"]),
    ("items", ["items.keyword"]), ("bossMonsters", ["bossMonsters.keyword"]),
    ("commonMonsters", ["commonMonsters.keyword"])], rfl⟩
  idField := ⟨"id", rfl⟩
  titleField := ⟨"title", rfl⟩
  titleSourceFields := ⟨["id", "title", "slug"], rfl⟩

/-- A group is a list of names, which is empty if there is no such group. -/
theorem WellFormed.exists_groupFields {c : SimilarityConfig} (h : c.WellFormed) (group : String) :
    ∃ fields : List String, c.groupFields (.str group) = .ok (.arr (fields.map .str)) := by
  obtain ⟨groups, hgroups⟩ := h.fieldGroups
  rw [groupFields, hgroups]
  suffices hget : ∃ fields : List String,
      (Record.get? (groups.map fun g => (Key.str g.1, Value.arr (g.2.map .str))) (.str group)).getD
        (.arr []) = .arr (fields.map .str) by
    obtain ⟨fields, hfields⟩ := hget
    refine ⟨fields, ?_⟩
    rw [← hfields, Value.object, List.map_map]
    rfl
  clear hgroups
  induction groups with
  | nil => exact ⟨[], rfl⟩
  | cons g groups ih =>
    rw [List.map_cons, Record.get?]
    split
    · exact ⟨g.2, rfl⟩
    · exact ih

end SimilarityConfig

end FacetSearch
