import FacetSearch.Proofs.Records
import FacetSearch.Proofs.SearchApi.Replies
import FacetSearch.Proofs.Sendable

/-!
# Nothing is lost on the way to a search interface

The client of a search interface sends each parameter of a request under the name that the interface
has for it, and the name of the index (`arguments`); what it returns is what the interface has written.
So a service over it cannot be told apart from one over an index that answers by itself, if the
interface writes what that index answers (`Mirrors`, `client_transparent`).
-/

namespace FacetSearch

open Call Outcome List

variable {σ τ α β : Type}

/-! ## What is sent -/

/-- The names of the parameters of a search, in their order. -/
def IndexRequest.parameterNames : List String :=
  ["size"] ++ (["query"] ++ ["from"] ++ ["sort"] ++ ["aggs"] ++ ["_source"] ++ ["highlight"] ++
    ["request_cache"])

theorem Value.keys_memberIfPresent (key : String) (v : Value) :
    Record.keys (v.memberIfPresent key) <+ [key] := by
  unfold memberIfPresent
  split
  · exact List.nil_sublist _
  · exact .refl _

theorem Value.keys_memberIfGiven (key : String) (v : Value) :
    Record.keys (v.memberIfGiven key) <+ [key] := by
  unfold memberIfGiven
  split
  · exact List.nil_sublist _
  · exact .refl _

theorem IndexRequest.keys_body {r : IndexRequest} {body : Record String Value}
    (h : r.body = .ok body) : Record.keys body <+ parameterNames := by
  obtain ⟨query, -, h⟩ := bind_eq_ok.1 h
  cases h
  have hquery : Record.keys (query.toList.map fun q => ("query", q)) <+ ["query"] := by
    cases query <;> simp [Record.keys]
  have hsort : Record.keys (r.sort.toList.map fun criteria =>
      ("sort", Value.arr (criteria.map SortCriterion.render))) <+ ["sort"] := by
    cases r.sort <;> simp [Record.keys]
  have haggs : Record.keys (if r.aggregations.isEmpty then []
      else [("aggs", Value.obj (Aggregation.renderAll r.aggregations))]) <+ ["aggs"] := by
    split <;> simp [Record.keys]
  have hcache : Record.keys (if r.requestCache.isPresent then [("request_cache", Value.bool true)]
      else []) <+ ["request_cache"] := by
    split <;> simp [Record.keys]
  unfold Record.keys at *
  simp only [List.map_cons, List.map_append]
  exact .cons_cons "size" ((((((hquery.append (Value.keys_memberIfPresent "from" r.offset)).append
    hsort).append haggs).append (Value.keys_memberIfGiven "_source" r.source)).append
      (Value.keys_memberIfGiven "highlight" r.highlight)).append hcache)

namespace SearchApi

/-- The parameters of a search as the interface takes them, two of them under names of its own, and
the name of the index. -/
def arguments (c : Config) (body : Record String Value) : Record String Value :=
  body.map (fun e =>
      (if e.1 = "from" then "from_" else if e.1 = "_source" then "source" else e.1, e.2)) ++
    [("index", c.indexName)]

variable {c : Config} {r : IndexRequest} {body : Record String Value}

theorem argumentName_eq (name : String) : argumentName name =
    if name = "from" then "from_" else if name = "_source" then "source" else name := by
  unfold argumentName
  split <;> simp_all

theorem arguments_eq :
    arguments c body = body.map (fun e => (argumentName e.1, e.2)) ++ [("index", c.indexName)] := by
  simp only [arguments, argumentName_eq]

theorem nodup_keys_arguments (h : r.body = .ok body) : (Record.keys (arguments c body)).Nodup := by
  have hnames : Record.keys (arguments c body) <+
      IndexRequest.parameterNames.map argumentName ++ ["index"] := by
    rw [arguments_eq, Record.keys, List.map_append, List.map_map]
    have hrenamed := (IndexRequest.keys_body h).map argumentName
    rw [Record.keys, List.map_map] at hrenamed
    exact hrenamed.append (.refl _)
  exact hnames.nodup (by decide)

theorem searchArguments_of_body (h : r.body = .ok body) :
    searchArguments c r = .ok (arguments c body) := by
  have hnew : ∀ e ∈ body.map (fun e => (argumentName e.1, e.2)), (e.1 == "index") = false := by
    intro e he
    have hnodup := nodup_keys_arguments (c := c) h
    rw [arguments_eq, Record.keys, List.map_append, List.nodup_append] at hnodup
    exact beq_false_of_ne (hnodup.2.2 e.1 (List.mem_map_of_mem he) "index" (by simp))
  rw [searchArguments, h, ok_bind, Record.set_of_absent hnew, arguments_eq]
  rfl

/-! ## What is returned -/

/-- The interface writes what a call answers, and fails as it does. -/
def MirrorsCall (writes : Record Key Value → β → Prop) (sent : Call σ Reply) (call : Call σ β) :
    Prop :=
  ∀ state, match outcome call state with
    | (.ok answer, state') => ∃ reply members, outcome sent state = (.ok reply, state') ∧
        reply.body = .obj members ∧ writes members answer
    | (.error e, state') => outcome sent state = (.error e, state')

/-- Reading what was written undoes the writing. -/
theorem bind_read_of_mirrors {writes : Record Key Value → β → Prop} {sent : Call σ Reply}
    {call : Call σ β} (h : MirrorsCall writes sent call) {read : Value → Except Error β}
    (hread : ∀ members answer, writes members answer → read (.obj members) = .ok answer) :
    (sent >>= fun reply => liftExcept (read reply.body)) = call := by
  refine Call.ext fun state => ?_
  rw [outcome_bind_liftExcept]
  have hstate := h state
  rcases hcall : outcome call state with ⟨answer, state'⟩
  rw [hcall] at hstate
  cases answer with
  | error e =>
    rw [hstate]
    rfl
  | ok answer =>
    obtain ⟨reply, members, hsent, hbody, hwrites⟩ := hstate
    rw [hsent]
    change (read reply.body, state') = _
    rw [hbody, hread members answer hwrites]

/-- To every call of the client that can be written, the interface writes the answer of an index. -/
structure Mirrors (c : Config) (backend : Backend σ) (index : IndexClient σ) : Prop where
  search : ∀ r body, r.body = .ok body →
    MirrorsCall WritesResponse (backend.search (arguments c body)) (index.search r)
  lookup : ∀ id sent, lookupArguments c id = .ok sent →
    MirrorsCall WritesId (backend.search sent) (index.lookup id)
  termVectors : ∀ id fields,
    MirrorsCall WritesVectors (backend.termVectors (termVectorArguments c id fields))
      (index.termVectors id fields)

theorem search_eq (backend : Backend σ) (h : r.body = .ok body) :
    (client c backend).search r =
      (backend.search (arguments c body) >>= fun reply =>
        liftExcept (readResponse reply.body)) := by
  change (liftExcept (searchArguments c r) >>= _) = _
  rw [searchArguments_of_body h]
  rfl

theorem lookup_eq (backend : Backend σ) {id : Value} {sent : Record String Value}
    (h : lookupArguments c id = .ok sent) :
    (client c backend).lookup id =
      (backend.search sent >>= fun reply => liftExcept (readLookup reply.body)) := by
  change (liftExcept (lookupArguments c id) >>= _) = _
  rw [h]
  rfl

theorem exists_lookupArguments (hid : ∃ name, c.idField = .str name) (id : Value) :
    ∃ sent, lookupArguments c id = .ok sent := by
  obtain ⟨name, hname⟩ := hid
  obtain ⟨q, hq⟩ := Query.writable_term_of_text hname id
  exact ⟨_, by rw [lookupArguments, hq]; rfl⟩

/-- The client answers like the index whose answers the interface writes. -/
theorem client_agrees {backend : Backend σ} {index : IndexClient σ}
    (hid : ∃ name, c.idField = .str name) (h : Mirrors c backend index) :
    (client c backend).Agree index where
  search r hr := by
    obtain ⟨body, hbody⟩ := r.exists_body hr
    rw [search_eq backend hbody]
    exact bind_read_of_mirrors (h.search r body hbody) fun _ _ => readResponse_of_writes
  lookup id := by
    obtain ⟨sent, hsent⟩ := exists_lookupArguments hid id
    rw [lookup_eq backend hsent]
    exact bind_read_of_mirrors (h.lookup id sent hsent) fun _ _ => readLookup_of_writes
  termVectors id fields :=
    bind_read_of_mirrors (h.termVectors id fields) fun _ _ => readTermVectors_of_writes

/-- What the interface writes in an answer to what was sent is what the call returns. -/
def Returns (writes : Record Key Value → β → Prop) (sent : Call σ Reply) (call : Call σ β) : Prop :=
  ∀ ⦃state state' reply members answer⦄, outcome sent state = (.ok reply, state') →
    reply.body = .obj members → writes members answer → outcome call state = (.ok answer, state')

theorem returns_bind_read {writes : Record Key Value → β → Prop} {read : Value → Except Error β}
    (hread : ∀ members answer, writes members answer → read (.obj members) = .ok answer)
    (sent : Call σ Reply) :
    Returns writes sent (sent >>= fun reply => liftExcept (read reply.body)) := by
  intro state state' reply members answer hsent hbody hwrites
  rw [outcome_bind_of_ok hsent, hbody, hread members answer hwrites]
  exact outcome_liftExcept _ _

/-- The client of a search interface sends the parameters of a request, each under a name of its own,
and nothing else but the name of the index, and returns what the interface writes; so no operation of
a service tells it apart from an index whose answers the interface writes. -/
theorem client_transparent (hid : ∃ name, c.idField = .str name) (backend : Backend σ) :
    (∀ r : IndexRequest, r.Sendable → ∃ body, r.body = .ok body ∧
      (Record.keys (arguments c body)).Nodup ∧
      (client c backend).search r = (do
        let reply ← backend.search (arguments c body)
        liftExcept (readResponse reply.body)) ∧
      Returns WritesResponse (backend.search (arguments c body)) ((client c backend).search r)) ∧
    (∀ id fields, Returns WritesVectors (backend.termVectors (termVectorArguments c id fields))
      ((client c backend).termVectors id fields)) ∧
    (∀ id, ∃ sent, lookupArguments c id = .ok sent ∧
      Returns WritesId (backend.search sent) ((client c backend).lookup id)) ∧
    ∀ index : IndexClient σ, Mirrors c backend index →
      ∀ s : Service τ α, s.config.similarity.WellFormed →
        ∀ op, (s.withClient (client c backend)).perform op = (s.withClient index).perform op := by
  refine ⟨fun r hr => ?_, fun id fields => ?_, fun id => ?_, fun index hindex s hs op => ?_⟩
  · obtain ⟨body, hbody⟩ := r.exists_body hr
    refine ⟨body, hbody, nodup_keys_arguments hbody, search_eq backend hbody, ?_⟩
    rw [search_eq backend hbody]
    exact returns_bind_read (fun _ _ => readResponse_of_writes) _
  · exact returns_bind_read (fun _ _ => readTermVectors_of_writes) _
  · obtain ⟨sent, hsent⟩ := exists_lookupArguments hid id
    refine ⟨sent, hsent, ?_⟩
    rw [lookup_eq backend hsent]
    exact returns_bind_read (fun _ _ => readLookup_of_writes) _
  · exact s.perform_withClient_eq (client_agrees hid hindex) hs op

/-- Two kites: one without fields, the other without passages. -/
def kitesFound : IndexResponse where
  hits := [
    { internalId := .str "k1"
      score := .ofInt 2
      highlights := .obj [(.str "title", .arr [.str "kite"])] },
    { internalId := .str "k2"
      source := .obj [(.str "title", .str "red kite")] }]
  total := .ofInt 2

/-- The same in writing: of the empty sections one is null, one an empty object, and one left out. -/
def kitesWritten : Record Key Value := [
  (.str "took", .ofInt 3),
  (.str "aggregations", .obj []),
  (.str "hits", .obj [
    (.str "total", .obj [(.str "value", .ofInt 2), (.str "relation", .str "eq")]),
    (.str "hits", .arr [
      .obj [(.str "_id", .str "k1"), (.str "_score", .ofInt 2), (.str "_source", .null),
        (.str "highlight", .obj [(.str "title", .arr [.str "kite"])])],
      .obj [(.str "_id", .str "k2"), (.str "_score", .null),
        (.str "_source", .obj [(.str "title", .str "red kite")])]])])]

def kiteVectors : Record Key TermVector := [
  (.str "title.analyzed", { docCount := .ofInt 4, terms := [(.str "kite", ⟨.ofInt 1, .ofInt 2⟩)] })]

def kiteVectorsWritten : Record Key Value := [
  (.str "term_vectors", .obj [
    (.str "title.analyzed", .obj [
      (.str "field_statistics", .obj [(.str "doc_count", .ofInt 4)]),
      (.str "terms", .obj [
        (.str "kite", .obj [(.str "term_freq", .ofInt 1), (.str "doc_freq", .ofInt 2)])])])])]

def kiteIdWritten : Record Key Value := [
  (.str "hits", .obj [(.str "hits", .arr [.obj [(.str "_id", .str "k1")]])])]

theorem writes_kites : WritesResponse kitesWritten kitesFound where
  hits := by
    refine ⟨_, rfl, ⟨[_, _], rfl, .cons ?_ (.cons ?_ .nil)⟩, 2, _, rfl, rfl, .inr ⟨_, rfl, rfl⟩⟩
    · exact ⟨⟨_, rfl, rfl⟩, rfl, ⟨[], rfl, .inr ⟨rfl, .inl rfl⟩⟩,
        [(.str "title", [.str "kite"])], rfl, .inl rfl⟩
    · exact ⟨⟨_, rfl, rfl⟩, rfl, ⟨_, rfl, .inl rfl⟩, [], rfl, .inr ⟨rfl, .inr rfl⟩⟩
  aggregations := ⟨[], rfl, .inl rfl⟩

theorem writes_kiteVectors : WritesVectors kiteVectorsWritten kiteVectors := by
  refine ⟨[(_, _)], .inl rfl, .cons ⟨rfl, ⟨4, _, rfl, rfl, rfl⟩, [(_, _)], .inl rfl, ?_⟩ .nil⟩
  exact .cons ⟨rfl, ⟨1, rfl, rfl⟩, 2, rfl, rfl⟩ .nil

theorem writes_kiteId : WritesId kiteIdWritten (some (.str "k1")) :=
  ⟨_, _, rfl, rfl, .inl ⟨_, _, rfl, rfl, rfl⟩⟩

/-- An index that always finds the same kites. -/
def kites : IndexClient Unit where
  search _ := return kitesFound
  lookup _ := return some (.str "k1")
  termVectors _ _ := return kiteVectors

/-- A search interface that writes what the index answers. A search for an id names the index first. -/
def kitesApi : Backend Unit where
  search
    | ("index", _) :: _ => return .plain (.obj kiteIdWritten)
    | _ => return .wrapped (.obj kitesWritten)
  termVectors _ := return .plain (.obj kiteVectorsWritten)
  close := pure ()

theorem mirrors_kites : Mirrors {} kitesApi kites where
  search r body h := by
    obtain ⟨query, -, h⟩ := bind_eq_ok.1 h
    cases h
    exact fun _ => ⟨_, _, rfl, rfl, writes_kites⟩
  lookup id sent h := by
    obtain ⟨query, -, h⟩ := bind_eq_ok.1 h
    cases h
    exact fun _ => ⟨_, _, rfl, rfl, writes_kiteId⟩
  termVectors _ _ := fun _ => ⟨_, _, rfl, rfl, writes_kiteVectors⟩

/-- A search interface that writes the same to every search, and keeps what it was sent. -/
def noting : Backend (List (Record String Value)) where
  search sent := do
    modify (· ++ [sent])
    return .wrapped (.obj kitesWritten)
  termVectors _ := return .plain (.obj kiteVectorsWritten)
  close := pure ()

/-- The titles behind the first ten results. -/
def laterTitles : IndexRequest where
  offset := .ofInt 10
  source := .arr [.str "title"]

/-- A search is sent under the names of the interface. Searching, counting and looking up over it give
what the index gives, and so does every operation of a service. -/
theorem client_transparent_kites :
    outcome ((client {} noting).search laterTitles) [] = (.ok kitesFound,
      [[("size", .ofInt 10), ("from_", .ofInt 10), ("source", .arr [.str "title"]),
        ("index", .str "adventures")]]) ∧
    outcome ((client {} kitesApi).search laterTitles) () = (.ok kitesFound, ()) ∧
    outcome ((client {} kitesApi).termVectors (.str "k1") [.str "title.analyzed"]) () =
      (.ok kiteVectors, ()) ∧
    outcome ((client {} kitesApi).lookup (.ofInt 1)) () = (.ok (some (.str "k1")), ()) ∧
    ∀ op, Service.perform (α := SearchHit)
      ⟨⟨[], by decide⟩, client {} kitesApi, {}, .fixed (.str "s"), SearchHit.ofIndexHit⟩ op =
        Service.perform
          ⟨⟨[], by decide⟩, kites, {}, .fixed (.str "s"), SearchHit.ofIndexHit⟩ op := by
  have hid : ∃ name, Config.idField {} = .str name := ⟨_, rfl⟩
  obtain ⟨hsearch, hvectors, hlookup, hservice⟩ :=
    client_transparent (τ := Unit) (α := SearchHit) hid kitesApi
  obtain ⟨hnoted, -⟩ := client_transparent (τ := Unit) (α := SearchHit) hid noting
  refine ⟨?_, ?_, ?_, ?_, fun op => ?_⟩
  · obtain ⟨body, hbody, -, -, hreturns⟩ := hnoted laterTitles (IndexRequest.sendable_of_none rfl)
    cases hbody
    exact hreturns rfl rfl writes_kites
  · obtain ⟨body, hbody, -, -, hreturns⟩ := hsearch laterTitles (IndexRequest.sendable_of_none rfl)
    cases hbody
    exact hreturns rfl rfl writes_kites
  · exact hvectors _ _ rfl rfl writes_kiteVectors
  · obtain ⟨sent, hsent, hreturns⟩ := hlookup (.ofInt 1)
    cases hsent
    exact hreturns rfl rfl writes_kiteId
  · exact hservice kites mirrors_kites
      ⟨⟨[], by decide⟩, kites, {}, .fixed (.str "s"), SearchHit.ofIndexHit⟩
      SimilarityConfig.wellFormed_default op

end SearchApi

end FacetSearch
