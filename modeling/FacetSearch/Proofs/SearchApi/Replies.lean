import FacetSearch.Index.SearchApi
import FacetSearch.Proofs.Outcome

/-!
# Answers of a search interface

A search interface writes a response, the term vectors of a document, or the hits for an id as an
object (`WritesResponse`, `WritesVectors`, `WritesId`). Other members may stand beside those that
count, a section without entries may be written as an empty object, as null or not at all
(`HasSection`), and the number of hits may stand alone or in an object (`WritesTotal`). Whichever
way it is written, what is read is what was written.
-/

namespace FacetSearch.SearchApi

open Outcome

/-- The entries of a section; without any, the section may be null or missing. -/
def HasSection (members : Record Key Value) (key : String) (entries : Record Key Value) : Prop :=
  Record.get? members key = some (.obj entries) ∨
    entries = [] ∧ (Record.get? members key = some .null ∨ Record.get? members key = none)

theorem HasSection.read {members entries : Record Key Value} {key : String}
    (h : HasSection members key entries) : section? (.obj members) key (.obj []) =
      .ok (.obj entries) := by
  change Except.ok (((Record.get? members key).getD .null).orElse (.obj [])) = _
  obtain hwritten | ⟨rfl, hnull | hmissing⟩ := h
  · rw [hwritten]
    cases entries <;> rfl
  · rw [hnull]
    rfl
  · rw [hmissing]
    rfl

/-! ## Responses -/

/-- The number of hits in all, alone or as the value of an object. -/
def WritesTotal (written : Value) (n : Nat) : Prop :=
  written = .ofInt n ∨
    ∃ members, written = .obj members ∧ Record.get? members "value" = some (.ofInt n)

/-- The members of a hit. -/
structure WritesHit (members : Record Key Value) (hit : IndexHit) : Prop where
  internalId : ∃ id, hit.internalId = .str id ∧ Record.get? members "_id" = some (.str id)
  score : Record.get? members "_score" = some hit.score
  source : ∃ fields, hit.source = .obj fields ∧ HasSection members "_source" fields
  highlights : ∃ passages : Record Key (List Value),
    hit.highlights = .obj (passages.map fun p => (p.1, .arr p.2)) ∧
      HasSection members "highlight" (passages.map fun p => (p.1, .arr p.2))

/-- The members of a section of hits. -/
structure WritesHits (members : Record Key Value) (response : IndexResponse) : Prop where
  hits : ∃ written, Record.get? members "hits" = some (.arr (written.map .obj)) ∧
    List.Forall₂ WritesHit written response.hits
  total : ∃ (n : Nat) (written : Value), response.total = .ofInt n ∧
    Record.get? members "total" = some written ∧ WritesTotal written n

/-- The answer to a search. -/
structure WritesResponse (members : Record Key Value) (response : IndexResponse) : Prop where
  hits : ∃ found, Record.get? members "hits" = some (.obj found) ∧ WritesHits found response
  aggregations : ∃ answers, response.aggregations = .obj answers ∧
    HasSection members "aggregations" answers

theorem memberOr_of_get? {members : Record Key Value} {key : String} {v : Value}
    (h : Record.get? members key = some v) (otherwise : Value) :
    (Value.obj members).memberOr key otherwise = .ok v := by
  change Except.ok ((Record.get? members key).getD otherwise) = _
  rw [h]
  rfl

theorem readHit_of_writes {members : Record Key Value} {hit : IndexHit}
    (h : WritesHit members hit) : readHit (.obj members) = .ok hit := by
  obtain ⟨internalId, score, source, highlights⟩ := hit
  obtain ⟨⟨id, rfl, hid⟩, hscore, ⟨fields, rfl, hsource⟩, passages, rfl, hpassages⟩ := h
  have hlists : (passages.map fun p => (p.1, Value.arr p.2)).mapM
      (fun e => do return (e.1, .arr (← e.2.elements)) : Key × Value → Except Error (Key × Value)) =
        .ok (passages.map fun p => (p.1, Value.arr p.2)) := by
    rw [mapM_eq_ok_iff, List.forall₂_same]
    intro e he
    obtain ⟨p, -, rfl⟩ := List.mem_map.1 he
    rfl
  rw [readHit, memberOr_of_get? hid, memberOr_of_get? hscore, hsource.read, hpassages.read]
  simp only [ok_bind, Value.toEntries, Value.entries, hlists]
  rfl

/-- A number that says nothing is 0. -/
theorem toInteger_orElse_zero (n : Int) :
    ((Value.ofInt n).orElse (.ofInt 0)).toInteger = .ok n := by
  rw [Value.orElse]
  split
  · rename_i hzero
    change Number.eqv (.int n) (.int 0) = true at hzero
    have hmagnitude : Magnitude.finite n = .finite (0 : Int) := (Magnitude.eqv_iff.1 hzero).1
    rw [Rat.intCast_inj.1 (Magnitude.finite.inj hmagnitude)]
    rfl
  · rfl

theorem readResponse_of_writes {members : Record Key Value} {response : IndexResponse}
    (h : WritesResponse members response) : readResponse (.obj members) = .ok response := by
  obtain ⟨hits, total, aggregations⟩ := response
  obtain ⟨⟨found, hfound, ⟨written, hwritten, hhits⟩, n, count, hn, hcount, htotal⟩, answers, ha,
    hanswers⟩ := h
  obtain rfl : total = .ofInt n := hn
  obtain rfl : aggregations = .obj answers := ha
  have hsection : section? (.obj members) "hits" (.obj []) = .ok (.obj found) :=
    HasSection.read (.inl hfound)
  have hnumber : totalOf (.obj found) = .ok (.ofInt n) := by
    rw [totalOf, memberOr_of_get? hcount]
    obtain rfl | ⟨entries, rfl, hvalue⟩ := htotal
    · rfl
    · change Except.ok ((Record.get? entries "value").getD (.ofInt 0)) = _
      rw [hvalue]
      rfl
  have hread : (written.map Value.obj).mapM readHit = .ok hits := by
    rw [mapM_eq_ok_iff, List.forall₂_map_left_iff]
    exact hhits.imp fun _ _ => readHit_of_writes
  rw [readResponse, hsection, ok_bind, hnumber, memberOr_of_get? hwritten, hanswers.read]
  simp only [ok_bind, Value.elements, Value.toEntries, hread, toInteger_orElse_zero]
  rfl

/-! ## Term vectors -/

/-- The counts of a term. -/
structure WritesCount (members : Record Key Value) (count : TermCount) : Prop where
  termFreq : ∃ n : Int, count.termFreq = .ofInt n ∧
    Record.get? members "term_freq" = some (.ofInt n)
  docFreq : ∃ n : Int, count.docFreq = .ofInt n ∧
    Record.get? members "doc_freq" = some (.ofInt n)

/-- The terms of a field and the documents that have it. -/
structure WritesVector (members : Record Key Value) (vector : TermVector) : Prop where
  docCount : ∃ (n : Int) (statistics : Record Key Value), vector.docCount = .ofInt n ∧
    Record.get? members "field_statistics" = some (.obj statistics) ∧
    Record.get? statistics "doc_count" = some (.ofInt n)
  terms : ∃ written : Record Key (Record Key Value),
    HasSection members "terms" (written.map fun e => (e.1, .obj e.2)) ∧
    List.Forall₂ (fun e term => e.1 = term.1 ∧ WritesCount e.2 term.2) written vector.terms

/-- The answer to a request for term statistics. -/
def WritesVectors (members : Record Key Value) (vectors : Record Key TermVector) : Prop :=
  ∃ written : Record Key (Record Key Value),
    HasSection members "term_vectors" (written.map fun e => (e.1, .obj e.2)) ∧
    List.Forall₂ (fun e field => e.1 = field.1 ∧ WritesVector e.2 field.2) written vectors

theorem countOf_of_get? {members : Record Key Value} {key : String} {n : Int}
    (h : Record.get? members key = some (.ofInt n)) : countOf (.obj members) key = .ok n := by
  rw [countOf, memberOr_of_get? h]
  rfl

theorem readTermVector_of_writes {members : Record Key Value} {vector : TermVector}
    (h : WritesVector members vector) : readTermVector (.obj members) = .ok vector := by
  obtain ⟨docCount, terms⟩ := vector
  obtain ⟨⟨n, statistics, hn, hstatistics, hcount⟩, written, hsection, hterms⟩ := h
  obtain rfl : docCount = .ofInt n := hn
  have hread : (written.map fun e => (e.1, Value.obj e.2)).mapM
      (fun e => do
        let termFreq ← countOf e.2 "term_freq"
        let docFreq ← countOf e.2 "doc_freq"
        return (e.1, { termFreq := .ofInt termFreq, docFreq := .ofInt docFreq }) :
          Key × Value → Except Error (Key × TermCount)) = .ok terms := by
    rw [mapM_eq_ok_iff, List.forall₂_map_left_iff]
    refine hterms.imp fun e term h => ?_
    obtain ⟨name, termFreq, docFreq⟩ := term
    obtain ⟨rfl, ⟨m, rfl, hm⟩, k, rfl, hk⟩ := h
    rw [countOf_of_get? hm, ok_bind, countOf_of_get? hk]
    rfl
  rw [readTermVector, memberOr_of_get? hstatistics, ok_bind, countOf_of_get? hcount, hsection.read]
  simp only [ok_bind, Value.entries, hread]
  rfl

theorem readTermVectors_of_writes {members : Record Key Value} {vectors : Record Key TermVector}
    (h : WritesVectors members vectors) : readTermVectors (.obj members) = .ok vectors := by
  obtain ⟨written, hsection, hvectors⟩ := h
  rw [readTermVectors, hsection.read]
  simp only [ok_bind, Value.entries]
  rw [mapM_eq_ok_iff, List.forall₂_map_left_iff]
  refine hvectors.imp fun e field h => ?_
  obtain ⟨name, vector⟩ := field
  obtain ⟨rfl, hvector⟩ := h
  rw [readTermVector_of_writes hvector]
  rfl

/-! ## Ids -/

/-- The hits for an id: the id that the index has for it is that of the only hit. -/
def WritesId (members : Record Key Value) (id? : Option Value) : Prop :=
  ∃ found hits, Record.get? members "hits" = some (.obj found) ∧
    Record.get? found "hits" = some (.arr hits) ∧
    ((∃ hit id, hits = [.obj hit] ∧ Record.get? hit "_id" = some (.str id) ∧ id? = some (.str id)) ∨
      hits.length ≠ 1 ∧ id? = none)

theorem member_of_get? {members : Record Key Value} {key : String} {v : Value}
    (h : Record.get? members key = some v) : (Value.obj members).member key = .ok v := by
  rw [Value.member, h]

theorem readLookup_of_writes {members : Record Key Value} {id? : Option Value}
    (h : WritesId members id?) : readLookup (.obj members) = .ok id? := by
  obtain ⟨found, hits, hfound, hhits, honly⟩ := h
  rw [readLookup, member_of_get? hfound, ok_bind, member_of_get? hhits]
  simp only [ok_bind, Value.elements]
  obtain ⟨hit, id, rfl, hid, rfl⟩ | ⟨hlength, rfl⟩ := honly
  · simp only [member_of_get? hid, ok_bind]
    rfl
  · split
    · simp at hlength
    · rfl

end FacetSearch.SearchApi
