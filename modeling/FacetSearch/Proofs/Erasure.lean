import FacetSearch.Proofs.NodeObjects
import FacetSearch.Proofs.Writable

/-!
# What the object of a query shows

A query tree has attributes that are not written: `Query.erased` is the tree without them. Trees whose
nodes have names for the fields they are written under (`Query.Plain`) have an object, and two of them
have equal objects exactly if they are equal once erased (`render_eqv_iff`). So an object tells which
nodes a tree has, in which order and how deep, with which bounds, values, texts and seeds
(`Query.SameContent`).
-/

namespace FacetSearch

open Outcome Value

/-- Neither a list nor an object. -/
def Value.IsScalar : Value → Prop
  | arr _ | obj _ => False
  | _ => True

/-- The field alone. -/
def Target.fieldOnly (t : Target) : Target := { field := t.field }

/-- The boost alone, as far as it is written. -/
def Target.boostOnly (t : Target) : Target := { boost := Boost.shown t.boost }

/-- The field, and the boost as far as it is written. -/
def Target.shown (t : Target) : Target := { t with boost := Boost.shown t.boost }

/-- The field has a name. -/
def Target.Named (t : Target) : Prop := ∃ name, t.field = .str name

namespace Query

mutual

/-- The tree without the attributes that are not written. -/
def erased : Query → Query
  | term t value => term t.shown value
  | fullText t text operator fuzziness => fullText t.shown text operator.shown fuzziness.shown
  | acrossFields t text fields scoring fuzziness length =>
    acrossFields t.boostOnly text fields scoring fuzziness.shown
      (if fuzziness.isAbsent then .null else length)
  | phrasePrefix t text => phrasePrefix t.fieldOnly text
  | bool t must should mustNot least =>
    bool t.boostOnly (erasedAll must) (erasedAll should) (erasedAll mustNot)
      (if should.isEmpty then .null else least)
  | range t gte lte => range t.fieldOnly gte lte
  | hasValue t => hasValue t.fieldOnly
  | matchAll _ => matchAll {}
  | random _ field query seed => random Boost.neutral field (erased query) seed

def erasedAll : List Query → List Query
  | [] => []
  | q :: qs => erased q :: erasedAll qs

/-- Fields that nodes are written under have names, the values of terms are scalars, and the fields
of a text search are a list. -/
def Plain : Query → Prop
  | term t value => t.Named ∧ value.IsScalar
  | fullText t _ _ _ | phrasePrefix t _ | range t _ _ => t.Named
  | acrossFields _ _ fields _ _ _ => ∃ names, fields = .arr names
  | bool _ must should mustNot _ => PlainAll must ∧ PlainAll should ∧ PlainAll mustNot
  | hasValue _ | matchAll _ => True
  | random _ _ query _ => Plain query

def PlainAll : List Query → Prop
  | [] => True
  | q :: qs => Plain q ∧ PlainAll qs

/-- The trees have nodes of the same kinds in the same places, with equal bounds, values, texts and
seeds. -/
def SameContent : Query → Query → Prop
  | term _ value, term _ value' => value.eqv value' = true
  | fullText _ text _ _, fullText _ text' _ _ => text.eqv text' = true
  | acrossFields _ text fields _ _ _, acrossFields _ text' fields' _ _ _ =>
    text.eqv text' = true ∧ fields.eqv fields' = true
  | phrasePrefix _ text, phrasePrefix _ text' => text.eqv text' = true
  | bool _ must should mustNot _, bool _ must' should' mustNot' _ =>
    SameContents must must' ∧ SameContents should should' ∧ SameContents mustNot mustNot'
  | range _ gte lte, range _ gte' lte' => gte.eqv gte' = true ∧ lte.eqv lte' = true
  | hasValue _, hasValue _ | matchAll _, matchAll _ => True
  | random _ _ query seed, random _ _ query' seed' =>
    SameContent query query' ∧ seed.eqv seed' = true
  | _, _ => False

def SameContents : List Query → List Query → Prop
  | [], [] => True
  | q :: qs, q' :: qs' => SameContent q q' ∧ SameContents qs qs'
  | _, _ => False

end

attribute [local simp] erased erasedAll eqv eqvAll

/-- What holds of every node if it holds of its clauses holds of every tree. -/
@[elab_as_elim]
theorem clauseInduction {P : Query → Prop}
    (term : ∀ t value, P (.term t value))
    (fullText : ∀ t text operator fuzziness, P (.fullText t text operator fuzziness))
    (acrossFields : ∀ t text fields scoring fuzziness length,
      P (.acrossFields t text fields scoring fuzziness length))
    (phrasePrefix : ∀ t text, P (.phrasePrefix t text))
    (bool : ∀ t must should mustNot least, (∀ q ∈ must, P q) → (∀ q ∈ should, P q) →
      (∀ q ∈ mustNot, P q) → P (.bool t must should mustNot least))
    (range : ∀ t gte lte, P (.range t gte lte))
    (hasValue : ∀ t, P (.hasValue t))
    (matchAll : ∀ t, P (.matchAll t))
    (random : ∀ boost field query seed, P query → P (.random boost field query seed))
    (q : Query) : P q := by
  induction q using Query.rec (motive_2 := fun qs => ∀ q ∈ qs, P q) with
  | term t value => exact term t value
  | fullText t text operator fuzziness => exact fullText t text operator fuzziness
  | acrossFields t text fields scoring fuzziness length =>
    exact acrossFields t text fields scoring fuzziness length
  | phrasePrefix t text => exact phrasePrefix t text
  | bool t must should mustNot least hmust hshould hmustNot =>
    exact bool t must should mustNot least hmust hshould hmustNot
  | range t gte lte => exact range t gte lte
  | hasValue t => exact hasValue t
  | matchAll t => exact matchAll t
  | random boost field query seed hquery => exact random boost field query seed hquery
  | nil =>
    rename_i hmem
    cases hmem
  | cons q qs hq hqs =>
    rename_i hmem
    exact List.forall_mem_cons.2 ⟨hq, hqs⟩ _ hmem

theorem plainAll_iff {qs : List Query} : PlainAll qs ↔ ∀ q ∈ qs, q.Plain := by
  induction qs with
  | nil => simp [PlainAll]
  | cons q qs ih => rw [PlainAll, ih, List.forall_mem_cons]

/-- A plain tree has an object. -/
theorem Plain.writable {q : Query} (h : q.Plain) : q.Writable := by
  induction q using clauseInduction with
  | term t value =>
    obtain ⟨⟨name, hname⟩, -⟩ := h
    exact writable_term (Target.keyed_of_text hname) value
  | fullText t text operator fuzziness =>
    obtain ⟨name, hname⟩ := h
    exact writable_fullText (Target.keyed_of_text hname) text operator fuzziness
  | acrossFields t text fields scoring fuzziness length =>
    obtain ⟨names, rfl⟩ := h
    exact writable_acrossFields text scoring fuzziness length names
  | phrasePrefix t text =>
    obtain ⟨name, hname⟩ := h
    exact writable_phrasePrefix (Target.keyed_of_text hname) text
  | bool t must should mustNot least hmust hshould hmustNot =>
    obtain ⟨hm, hs, hn⟩ := h
    rw [plainAll_iff] at hm hs hn
    exact writable_bool (fun q hq => hmust q hq (hm q hq)) (fun q hq => hshould q hq (hs q hq))
      (fun q hq => hmustNot q hq (hn q hq)) least
  | range t gte lte =>
    obtain ⟨name, hname⟩ := h
    exact writable_range (Target.keyed_of_text hname) gte lte
  | hasValue t => exact writable_hasValue t
  | matchAll t => exact writable_matchAll t
  | random boost field query seed hquery => exact writable_random (hquery h) boost field seed

/-! ## Equal objects -/

theorem exists_body {q : Query} {v : Value} (h : q.render = .ok v) :
    ∃ body, v = object [(q.tag, body)] := by
  cases q with
  | term | fullText | acrossFields | phrasePrefix | range | random =>
    obtain ⟨_, -, hv⟩ := bind_eq_ok.1 h
    cases hv
    exact ⟨_, rfl⟩
  | bool t must should mustNot least =>
    obtain ⟨_, -, h⟩ := bind_eq_ok.1 h
    obtain ⟨_, -, h⟩ := bind_eq_ok.1 h
    obtain ⟨_, -, hv⟩ := bind_eq_ok.1 h
    cases hv
    exact ⟨_, rfl⟩
  | hasValue | matchAll =>
    cases h
    exact ⟨_, rfl⟩

theorem eqv_erased_of_tag_ne {a b : Query} (h : a.tag ≠ b.tag) :
    a.erased.eqv b.erased = false := by
  cases a <;> cases b <;> first | exact absurd rfl h | rfl

/-- Nodes of different kinds are written under different names. -/
theorem eqv_of_tag_ne {a b : Query} {v w : Value} (hv : a.render = .ok v) (hw : b.render = .ok w)
    (h : a.tag ≠ b.tag) : v.eqv w = a.erased.eqv b.erased := by
  obtain ⟨body, rfl⟩ := exists_body hv
  obtain ⟨body', rfl⟩ := exists_body hw
  rw [eqv_erased_of_tag_ne h, object_singleton_eqv, beq_eq_false_iff_ne.2 h, Bool.false_and]

/-- Under one name, the objects inside decide. -/
theorem under_eqv (tag : String) (v w : Value) :
    (object [(tag, v)]).eqv (object [(tag, w)]) = v.eqv w := by
  rw [object_singleton_eqv, beq_self_eq_true, Bool.true_and]

/-- Two lists of clauses whose objects are equal exactly if the clauses are once erased. -/
def ClausesShown (qs qs' : List Query) : Prop :=
  ∀ vs ws, renderAll qs = .ok vs → renderAll qs' = .ok ws →
    eqvItems vs ws = eqvAll (erasedAll qs) (erasedAll qs')

theorem clausesShown {qs qs' : List Query}
    (hqs : ∀ q ∈ qs, ∀ {b : Query} {v w : Value}, q.Plain → b.Plain → q.render = .ok v →
      b.render = .ok w → v.eqv w = q.erased.eqv b.erased)
    (h : PlainAll qs) (h' : PlainAll qs') : ClausesShown qs qs' := by
  intro vs ws hvs hws
  induction qs generalizing qs' vs ws with
  | nil =>
    cases hvs
    cases qs' with
    | nil =>
      cases hws
      rfl
    | cons q' qs' =>
      obtain ⟨w, -, hws⟩ := bind_eq_ok.1 hws
      obtain ⟨ws, -, hws⟩ := bind_eq_ok.1 hws
      cases hws
      rfl
  | cons q qs ih =>
    obtain ⟨v, hv, hvs⟩ := bind_eq_ok.1 hvs
    obtain ⟨vs, hvs', hvs⟩ := bind_eq_ok.1 hvs
    cases hvs
    cases qs' with
    | nil =>
      cases hws
      rfl
    | cons q' qs' =>
      obtain ⟨w, hw, hws⟩ := bind_eq_ok.1 hws
      obtain ⟨ws, hws', hws⟩ := bind_eq_ok.1 hws
      cases hws
      rw [List.forall_mem_cons] at hqs
      rw [eqvItems, erasedAll, erasedAll, eqvAll, hqs.1 h.1 h'.1 hv hw,
        ih hqs.2 h.2 h'.2 vs ws hvs' hws']

theorem scalar_eqv_obj {value : Value} (h : value.IsScalar) (members : Record String Value) :
    value.eqv (object members) = false ∧ (object members).eqv value = false := by
  cases value with
  | arr | obj => exact h.elim
  | _ => simp [object, Value.eqv, number?, isNull]

/-- A boosted value is an object, so no scalar is written like it. -/
theorem eqv_boosted {value value' : Value} (h : value.IsScalar) (h' : value'.IsScalar)
    (b b' : Value) :
    (if Boost.isNeutral b then value
      else ofSlots [("value", some value), ("boost", some b)]).eqv
        (if Boost.isNeutral b' then value'
          else ofSlots [("value", some value'), ("boost", some b')]) =
      ((Boost.shown b).eqv (Boost.shown b') && value.eqv value') := by
  unfold Boost.shown
  cases hb : Boost.isNeutral b <;> cases hb' : Boost.isNeutral b'
  · simp only [Bool.false_eq_true, if_false]
    rw [eqv_ofSlots ["value", "boost"] rfl rfl (by decide)]
    simp only [agreeAll, agree_some, Bool.and_true]
    exact Bool.and_comm ..
  · simp [Boost.eqv_neutral, hb, ofSlots, scalar_eqv_obj h']
  · simp [Boost.neutral_eqv, hb', ofSlots, scalar_eqv_obj h]
  · simp [Boost.eqv_neutral, Boost.isNeutral_neutral]

/-- A prefix length is only written beside a fuzziness. -/
theorem agree_length (fuzziness fuzziness' length length' : Value) :
    (fuzziness.shown.eqv fuzziness'.shown &&
        agree (if fuzziness.isAbsent then none else some length)
          (if fuzziness'.isAbsent then none else some length')) =
      (fuzziness.shown.eqv fuzziness'.shown &&
        (if fuzziness.isAbsent then null else length).eqv
          (if fuzziness'.isAbsent then null else length')) := by
  rw [← agree_present?]
  unfold present?
  cases fuzziness.isAbsent <;> cases fuzziness'.isAbsent <;> simp [agree, null_eqv, isNull]

/-! ### Two nodes of one kind -/

section Nodes

variable {t t' : Target} {v w : Value}

theorem eqv_term {value value' : Value} (ha : (term t value).Plain) (hb : (term t' value').Plain)
    (hv : (term t value).render = .ok v) (hw : (term t' value').render = .ok w) :
    v.eqv w = (term t value).erased.eqv (term t' value').erased := by
  obtain ⟨⟨name, hname⟩, hscalar⟩ := ha
  obtain ⟨⟨name', hname'⟩, hscalar'⟩ := hb
  rw [render_term hname] at hv
  rw [render_term hname'] at hw
  cases hv
  cases hw
  rw [under_eqv, object_singleton_eqv, eqv_boosted hscalar hscalar']
  simp only [erased, Query.eqv, Target.eqv, Target.shown, hname, hname', Value.eqv]
  ac_rfl

theorem eqv_fullText {text operator fuzziness text' operator' fuzziness' : Value}
    (ha : t.Named) (hb : t'.Named) (hv : (fullText t text operator fuzziness).render = .ok v)
    (hw : (fullText t' text' operator' fuzziness').render = .ok w) :
    v.eqv w = (fullText t text operator fuzziness).erased.eqv
      (fullText t' text' operator' fuzziness').erased := by
  obtain ⟨name, hname⟩ := ha
  obtain ⟨name', hname'⟩ := hb
  rw [render_fullText hname] at hv
  rw [render_fullText hname'] at hw
  cases hv
  cases hw
  rw [under_eqv, object_singleton_eqv,
    eqv_ofSlots ["query", "operator", "fuzziness", "boost"] rfl rfl (by decide)]
  simp only [agreeAll, agree_some, agree_present?, Boost.agree_written?, Bool.and_true, erased,
    Query.eqv, Target.eqv, Target.shown, hname, hname', Value.eqv]
  ac_rfl

theorem eqv_acrossFields {text scoring fuzziness length text' scoring' fuzziness' length' : Value}
    {names names' : List Value}
    (hv : (acrossFields t text (.arr names) scoring fuzziness length).render = .ok v)
    (hw : (acrossFields t' text' (.arr names') scoring' fuzziness' length').render = .ok w) :
    v.eqv w = (acrossFields t text (.arr names) scoring fuzziness length).erased.eqv
      (acrossFields t' text' (.arr names') scoring' fuzziness' length').erased := by
  rw [render_acrossFields] at hv hw
  cases hv
  cases hw
  rw [under_eqv, eqv_ofSlots
    ["query", "fields", "type", "fuzziness", "prefix_length", "boost"] rfl rfl (by decide)]
  simp only [agreeAll, agree_some, agree_present?, Boost.agree_written?, Bool.and_true, erased,
    Query.eqv, Target.eqv, Target.boostOnly, null_eqv, isNull, Bool.true_and]
  rw [← Bool.and_assoc (fuzziness.shown.eqv fuzziness'.shown), agree_length]
  ac_rfl

theorem eqv_phrasePrefix {text text' : Value} (ha : t.Named) (hb : t'.Named)
    (hv : (phrasePrefix t text).render = .ok v) (hw : (phrasePrefix t' text').render = .ok w) :
    v.eqv w = (phrasePrefix t text).erased.eqv (phrasePrefix t' text').erased := by
  obtain ⟨name, hname⟩ := ha
  obtain ⟨name', hname'⟩ := hb
  rw [render_phrasePrefix hname] at hv
  rw [render_phrasePrefix hname'] at hw
  cases hv
  cases hw
  rw [under_eqv, object_singleton_eqv]
  simp only [erased, Query.eqv, Target.eqv, Target.fieldOnly, hname, hname', Value.eqv,
    Boost.eqv_neutral, Boost.isNeutral_neutral, Bool.and_true]

theorem eqv_bool {must should mustNot must' should' mustNot' : List Query} {least least' : Value}
    (hmust : ClausesShown must must') (hshould : ClausesShown should should')
    (hmustNot : ClausesShown mustNot mustNot')
    (hv : (bool t must should mustNot least).render = .ok v)
    (hw : (bool t' must' should' mustNot' least').render = .ok w) :
    v.eqv w = (bool t must should mustNot least).erased.eqv
      (bool t' must' should' mustNot' least').erased := by
  obtain ⟨ms, hms, hrest⟩ := bind_eq_ok.1 hv
  obtain ⟨ss, hss, hrest⟩ := bind_eq_ok.1 hrest
  obtain ⟨ns, hns, -⟩ := bind_eq_ok.1 hrest
  obtain ⟨ms', hms', hrest⟩ := bind_eq_ok.1 hw
  obtain ⟨ss', hss', hrest⟩ := bind_eq_ok.1 hrest
  obtain ⟨ns', hns', -⟩ := bind_eq_ok.1 hrest
  rw [render_bool hms hss hns] at hv
  rw [render_bool hms' hss' hns'] at hw
  cases hv
  cases hw
  rw [under_eqv, eqv_ofSlots
    ["must", "should", "minimum_should_match", "must_not", "boost"] rfl rfl (by decide)]
  simp only [agreeAll, agree_any?, agree_given?, Boost.agree_written?, Bool.and_true, erased,
    Query.eqv, Target.eqv, Target.boostOnly, null_eqv, isNull, Bool.true_and,
    hmust ms ms' hms hms', hshould ss ss' hss hss', hmustNot ns ns' hns hns']
  ac_rfl

theorem eqv_range {gte lte gte' lte' : Value} (ha : t.Named) (hb : t'.Named)
    (hv : (range t gte lte).render = .ok v) (hw : (range t' gte' lte').render = .ok w) :
    v.eqv w = (range t gte lte).erased.eqv (range t' gte' lte').erased := by
  obtain ⟨name, hname⟩ := ha
  obtain ⟨name', hname'⟩ := hb
  rw [render_range hname] at hv
  rw [render_range hname'] at hw
  cases hv
  cases hw
  rw [under_eqv, object_singleton_eqv, eqv_ofSlots ["gte", "lte"] rfl rfl (by decide)]
  simp only [agreeAll, agree_given?, Bool.and_true, erased, Query.eqv, Target.eqv,
    Target.fieldOnly, hname, hname', Value.eqv, Boost.eqv_neutral, Boost.isNeutral_neutral]
  ac_rfl

theorem eqv_hasValue (hv : (hasValue t).render = .ok v) (hw : (hasValue t').render = .ok w) :
    v.eqv w = (hasValue t).erased.eqv (hasValue t').erased := by
  cases hv
  cases hw
  rw [under_eqv, under_eqv]
  simp only [erased, Query.eqv, Target.eqv, Target.fieldOnly, Boost.eqv_neutral,
    Boost.isNeutral_neutral, Bool.and_true]

theorem eqv_matchAll (hv : (matchAll t).render = .ok v) (hw : (matchAll t').render = .ok w) :
    v.eqv w = (matchAll t).erased.eqv (matchAll t').erased := by
  cases hv
  cases hw
  simp only [under_eqv, erased, Query.eqv, Target.eqv, Boost.eqv_neutral, Boost.isNeutral_neutral,
    null_eqv, isNull]
  rfl

theorem eqv_random {boost field seed boost' field' seed' : Value} {query query' : Query}
    (hquery : ∀ x y, query.render = .ok x → query'.render = .ok y →
      x.eqv y = query.erased.eqv query'.erased)
    (hv : (random boost field query seed).render = .ok v)
    (hw : (random boost' field' query' seed').render = .ok w) :
    v.eqv w = (random boost field query seed).erased.eqv
      (random boost' field' query' seed').erased := by
  obtain ⟨x, hx, hv⟩ := bind_eq_ok.1 hv
  obtain ⟨y, hy, hw⟩ := bind_eq_ok.1 hw
  cases hv
  cases hw
  change (object [("function_score", ofSlots [("query", some x), ("random_score",
    some (ofSlots [("seed", some seed), ("field", some field)]))])]).eqv
      (object [("function_score", ofSlots [("query", some y), ("random_score",
        some (ofSlots [("seed", some seed'), ("field", some field')]))])]) = _
  rw [under_eqv, eqv_ofSlots ["query", "random_score"] rfl rfl (by decide)]
  simp only [agreeAll, agree_some, Bool.and_true]
  rw [eqv_ofSlots ["seed", "field"] rfl rfl (by decide), hquery x y hx hy]
  simp only [agreeAll, agree_some, Bool.and_true, erased, Query.eqv, Boost.eqv_neutral,
    Boost.isNeutral_neutral, Bool.true_and]
  ac_rfl

end Nodes

/-- The objects of plain trees are equal exactly if the trees are once erased. -/
theorem eqv_of_render {a b : Query} {v w : Value} (ha : a.Plain) (hb : b.Plain)
    (hv : a.render = .ok v) (hw : b.render = .ok w) : v.eqv w = a.erased.eqv b.erased := by
  -- The induction is on the first tree; only a second one of the same kind takes an argument.
  induction a using clauseInduction generalizing b v w with
  | term t value =>
    cases b with
    | term => exact eqv_term ha hb hv hw
    | _ => exact eqv_of_tag_ne hv hw (by simp [tag])
  | fullText t text operator fuzziness =>
    cases b with
    | fullText => exact eqv_fullText ha hb hv hw
    | _ => exact eqv_of_tag_ne hv hw (by simp [tag])
  | acrossFields t text fields scoring fuzziness length =>
    cases b with
    | acrossFields =>
      obtain ⟨names, rfl⟩ := ha
      obtain ⟨names', rfl⟩ := hb
      exact eqv_acrossFields hv hw
    | _ => exact eqv_of_tag_ne hv hw (by simp [tag])
  | phrasePrefix t text =>
    cases b with
    | phrasePrefix => exact eqv_phrasePrefix ha hb hv hw
    | _ => exact eqv_of_tag_ne hv hw (by simp [tag])
  | bool t must should mustNot least hmust hshould hmustNot =>
    cases b with
    | bool t' must' should' mustNot' least' =>
      obtain ⟨hm, hs, hn⟩ := ha
      obtain ⟨hm', hs', hn'⟩ := hb
      exact eqv_bool (clausesShown hmust hm hm') (clausesShown hshould hs hs')
        (clausesShown hmustNot hn hn') hv hw
    | _ => exact eqv_of_tag_ne hv hw (by simp [tag])
  | range t gte lte =>
    cases b with
    | range => exact eqv_range ha hb hv hw
    | _ => exact eqv_of_tag_ne hv hw (by simp [tag])
  | hasValue t =>
    cases b with
    | hasValue => exact eqv_hasValue hv hw
    | _ => exact eqv_of_tag_ne hv hw (by simp [tag])
  | matchAll t =>
    cases b with
    | matchAll => exact eqv_matchAll hv hw
    | _ => exact eqv_of_tag_ne hv hw (by simp [tag])
  | random boost field query seed hquery =>
    cases b with
    | random => exact eqv_random (fun _ _ => hquery ha hb) hv hw
    | _ => exact eqv_of_tag_ne hv hw (by simp [tag])

/-- Trees that are equal once erased have the same content. -/
theorem sameContent_of_erased {a b : Query} (h : a.erased.eqv b.erased = true) :
    a.SameContent b := by
  induction a using clauseInduction generalizing b with
  | bool t must should mustNot least hmust hshould hmustNot =>
    cases b with
    | bool t' must' should' mustNot' least' =>
      simp only [erased, eqv, Bool.and_eq_true] at h
      exact ⟨sameContents hmust h.1.1.1.2, sameContents hshould h.1.1.2,
        sameContents hmustNot h.1.2⟩
    | _ => simp at h
  | random boost field query seed hquery =>
    cases b with
    | random boost' field' query' seed' =>
      simp only [erased, eqv, Bool.and_eq_true] at h
      exact ⟨hquery h.1.2, h.2⟩
    | _ => simp at h
  | _ => cases b <;> simp_all [SameContent]
where
  sameContents {qs qs' : List Query}
      (hqs : ∀ q ∈ qs, ∀ {b : Query}, q.erased.eqv b.erased = true → q.SameContent b)
      (h : eqvAll (erasedAll qs) (erasedAll qs') = true) : SameContents qs qs' := by
    induction qs generalizing qs' with
    | nil =>
      cases qs' with
      | nil => trivial
      | cons => cases h
    | cons q qs ih =>
      cases qs' with
      | nil => cases h
      | cons q' qs' =>
        rw [List.forall_mem_cons] at hqs
        rw [erasedAll, erasedAll, eqvAll, Bool.and_eq_true] at h
        exact ⟨hqs.1 h.1, ih hqs.2 h.2⟩

/-- Plain trees have objects, which are equal exactly if the trees are equal once the attributes that
are not written are erased. Trees of equal objects have the same content. -/
theorem render_eqv_iff {a b : Query} (ha : a.Plain) (hb : b.Plain) :
    ∃ v w, a.render = .ok v ∧ b.render = .ok w ∧
      (v.eqv w = true ↔ a.erased.eqv b.erased = true) ∧ (v.eqv w = true → a.SameContent b) := by
  obtain ⟨v, hv⟩ := ha.writable
  obtain ⟨w, hw⟩ := hb.writable
  have heqv : v.eqv w = a.erased.eqv b.erased := eqv_of_render ha hb hv hw
  refine ⟨v, w, hv, hw, by rw [heqv], fun h => sameContent_of_erased ?_⟩
  rw [← heqv, h]

/-- Fantasy books, with a boost or without one. -/
def fantasy (boost : Value) : Query :=
  allOf [term { field := .str "genre", boost } (.str "fantasy")]

/-- The same with attributes that are not written. -/
def fantasyAdorned : Query :=
  bool { field := .str "genre", boost := .ofInt 1 } [term (.named "genre") (.str "fantasy")] [] []
    (.str "25%")

/-- What is not written makes no difference, and a boost does. -/
theorem render_eqv_iff_fantasy :
    (fantasy Boost.neutral).Plain ∧ fantasyAdorned.Plain ∧ (fantasy (.ofInt 2)).Plain ∧
      (∃ v w, (fantasy Boost.neutral).render = .ok v ∧ fantasyAdorned.render = .ok w ∧
        v.eqv w = true) ∧
      ∃ v w, (fantasy Boost.neutral).render = .ok v ∧ (fantasy (.ofInt 2)).render = .ok w ∧
        v.eqv w = false := by
  have hplain : ∀ boost, (fantasy boost).Plain := fun _ =>
    ⟨⟨⟨⟨"genre", rfl⟩, trivial⟩, trivial⟩, trivial, trivial⟩
  have hadorned : fantasyAdorned.Plain :=
    ⟨⟨⟨⟨"genre", rfl⟩, trivial⟩, trivial⟩, trivial, trivial⟩
  obtain ⟨v, w, hv, hw, hsame, -⟩ := render_eqv_iff (hplain Boost.neutral) hadorned
  obtain ⟨v', w', hv', hw', hother, -⟩ := render_eqv_iff (hplain Boost.neutral) (hplain (.ofInt 2))
  refine ⟨hplain _, hadorned, hplain _, ⟨v, w, hv, hw, hsame.2 ?_⟩, v', w', hv', hw', ?_⟩
  · decide +kernel
  · rw [← Bool.not_eq_true, hother]
    decide +kernel

end Query

end FacetSearch
