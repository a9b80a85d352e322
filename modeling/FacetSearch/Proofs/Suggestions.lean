import Mathlib.Data.List.Induction
import FacetSearch.Proofs.Calls
import FacetSearch.Proofs.Outcome
import FacetSearch.Service.Suggest

/-!
# Suggestions are the passages first seen

The passages of a field are collected hit by hit, each hit without its own repetitions and then
without those that an earlier one had. Collecting all of them in one go and keeping the first of
equal ones (`List.eraseDups`) comes to the same (`foldlM_addHit`), since what was found so far is
always the passages seen so far without repetitions. Only the passages of the field that is
completed count (`IndexHit.Shows`); what a hit shows for other fields may be anything.
-/

namespace FacetSearch

open Call Outcome

/-! ## First occurrences -/

section FirstOccurrences

variable {α : Type} [BEq α] [LawfulBEq α]

theorem eraseDups_concat_of_mem {xs : List α} {a : α} (h : a ∈ xs) :
    (xs ++ [a]).eraseDups = xs.eraseDups := by
  have hnone : [a].removeAll xs = [] := by simp [List.removeAll, h]
  rw [List.eraseDups_append, hnone, List.eraseDups_nil, List.append_nil]

theorem eraseDups_concat_of_not_mem {xs : List α} {a : α} (h : a ∉ xs) :
    (xs ++ [a]).eraseDups = xs.eraseDups ++ [a] := by
  have hnew : [a].removeAll xs = [a] := by simp [List.removeAll, h]
  rw [List.eraseDups_append, hnew, List.eraseDups_cons, List.filter_nil, List.eraseDups_nil]

/-- Repetitions can be left out behind other elements before they are left out of the whole. -/
theorem eraseDups_append_eraseDups (xs ys : List α) :
    (xs ++ ys.eraseDups).eraseDups = (xs ++ ys).eraseDups := by
  induction ys using List.reverseRecOn with
  | nil => rfl
  | append_singleton ys a ih =>
    rw [← List.append_assoc]
    by_cases hys : a ∈ ys
    · have hall : a ∈ xs ++ ys := List.mem_append_right xs hys
      rw [eraseDups_concat_of_mem hys, eraseDups_concat_of_mem hall, ih]
    · rw [eraseDups_concat_of_not_mem hys, ← List.append_assoc]
      by_cases hxs : a ∈ xs
      · rw [eraseDups_concat_of_mem (List.mem_append_left _ hxs),
          eraseDups_concat_of_mem (List.mem_append_left _ hxs), ih]
      · have hnew : a ∉ xs ++ ys.eraseDups := by simp [hxs, hys]
        have hall : a ∉ xs ++ ys := by simp [hxs, hys]
        rw [eraseDups_concat_of_not_mem hnew, eraseDups_concat_of_not_mem hall, ih]

/-- What is left stands in the order in which it first came. -/
theorem pairwise_idxOf_eraseDups (xs : List α) :
    xs.eraseDups.Pairwise fun a b => xs.idxOf a < xs.idxOf b := by
  induction xs using List.reverseRecOn with
  | nil => exact .nil
  | append_singleton xs a ih =>
    have hplace {b : α} (hb : b ∈ xs.eraseDups) : (xs ++ [a]).idxOf b = xs.idxOf b :=
      List.idxOf_append_of_mem (List.mem_eraseDups.1 hb)
    have hfront : xs.eraseDups.Pairwise fun b c => (xs ++ [a]).idxOf b < (xs ++ [a]).idxOf c := by
      refine ih.imp_of_mem fun hb hc hlt => ?_
      rwa [hplace hb, hplace hc]
    by_cases ha : a ∈ xs
    · rwa [eraseDups_concat_of_mem ha]
    · rw [eraseDups_concat_of_not_mem ha]
      refine List.pairwise_append.2 ⟨hfront, List.pairwise_singleton _ _, fun b hb c hc => ?_⟩
      have hlast : (xs ++ [a]).idxOf a = xs.length := by simp [List.idxOf_append_of_notMem ha]
      rw [List.mem_singleton.1 hc, hplace hb, hlast]
      exact List.idxOf_lt_length_of_mem (List.mem_eraseDups.1 hb)

theorem nodup_eraseDups (xs : List α) : xs.eraseDups.Nodup := by
  refine (pairwise_idxOf_eraseDups xs).imp fun hlt heq => ?_
  rw [heq] at hlt
  exact Nat.lt_irrefl _ hlt

end FirstOccurrences

/-! ## Passages -/

/-- The passages that a hit shows for a field. A hit without any shows none, in whichever way it
says so. -/
def IndexHit.Shows (field : String) (hit : IndexHit) (texts : List String) : Prop :=
  ∃ v, hit.highlights.memberOr field .null = .ok v ∧
    (v = .arr (texts.map .str) ∨ v.isAbsent = true ∧ texts = [])

/-- Texts as passages. -/
def passagesOf (texts : List String) : List Value := texts.map .str

theorem addPassage_text (seen : List String) (text : String) :
    addPassage (passagesOf seen.eraseDups) (.str text) =
      passagesOf (seen ++ [text]).eraseDups := by
  have hfound : (passagesOf seen.eraseDups).any (·.eqv (.str text)) = decide (text ∈ seen) := by
    rw [Bool.eq_iff_iff, decide_eq_true_iff, ← List.mem_eraseDups]
    simp [passagesOf, Value.eqv]
  rw [addPassage, hfound]
  by_cases h : text ∈ seen
  · rw [if_pos (decide_eq_true h), eraseDups_concat_of_mem h]
  · rw [if_neg (by simpa using h), eraseDups_concat_of_not_mem h]
    simp [passagesOf]

theorem foldl_addPassage (seen texts : List String) :
    (passagesOf texts).foldl addPassage (passagesOf seen.eraseDups) =
      passagesOf (seen ++ texts).eraseDups := by
  induction texts generalizing seen with
  | nil => rw [List.append_nil]; rfl
  | cons text texts ih =>
    have hrest := ih (seen ++ [text])
    rw [← addPassage_text, List.append_assoc] at hrest
    exact hrest

theorem passages_text (texts : List String) :
    passages (passagesOf texts) = .ok (passagesOf texts.eraseDups) := by
  have hsteps : passages (passagesOf texts) =
      .ok (texts.foldl (fun found text => addPassage found (.str text)) []) := by
    rw [passages, passagesOf, List.foldlM_map]
    exact List.foldlM_pure
  have hfold : texts.foldl (fun found text => addPassage found (.str text)) [] =
      passagesOf texts.eraseDups := by
    simpa [passagesOf, List.foldl_map] using foldl_addPassage [] texts
  rw [hsteps, hfold]

/-- One more hit: what was found goes on to be the passages seen, without repetitions. -/
theorem addHit_of_shows {field : String} {hit : IndexHit} {texts : List String}
    (h : hit.Shows field texts) (seen : List String) :
    addHit field (passagesOf seen.eraseDups) hit =
      .ok (passagesOf (seen ++ texts).eraseDups) := by
  obtain ⟨v, hmember, hv⟩ := h
  rw [addHit, hmember, ok_bind]
  cases habsent : v.isAbsent with
  | true =>
    have hnone : texts = [] := by
      rcases hv with rfl | ⟨-, rfl⟩
      · simpa [Value.isAbsent] using habsent
      · rfl
    rw [if_pos rfl, hnone, List.append_nil]
    rfl
  | false =>
    have hlist : v = .arr (passagesOf texts) := by
      rcases hv with rfl | ⟨hnot, -⟩
      · rfl
      · rw [habsent] at hnot
        cases hnot
    rw [if_neg Bool.false_ne_true, hlist, Value.elements, ok_bind, passages_text, ok_bind,
      foldl_addPassage, eraseDups_append_eraseDups]
    rfl

theorem foldlM_addHit {field : String} {hits : List IndexHit} {shown : List (List String)}
    (h : List.Forall₂ (IndexHit.Shows field) hits shown) (seen : List String) :
    hits.foldlM (addHit field) (passagesOf seen.eraseDups) =
      .ok (passagesOf (seen ++ shown.flatten).eraseDups) := by
  induction h generalizing seen with
  | nil => rw [List.flatten_nil, List.append_nil]; rfl
  | cons hhit _ ih =>
    rw [List.foldlM_cons, addHit_of_shows hhit, ok_bind, ih, List.flatten_cons, List.append_assoc]

/-! ## Suggestions -/

variable {σ : Type}

/-- For a text that is not empty, the suggestions are the passages of the field from all hits, in
the order of the hits and each one only where it first comes: no passage twice, every passage that a
hit shows for the field and no other, in the order of their first appearance. -/
theorem outcome_suggest_firstSeen {client : IndexClient σ} {size : Value} {field : Field}
    {typed : String} {state state' : σ} {response : IndexResponse} {shown : List (List String)}
    (htyped : typed ≠ "")
    (hsearch : outcome (client.search (suggestionRequest size field.name (.str typed))) state =
      (.ok response, state'))
    (hshown : List.Forall₂ (IndexHit.Shows field.name) response.hits shown) :
    ∃ texts : List String,
      outcome (suggest client size field (.str typed)) state =
        (.ok (texts.map .str), state') ∧
      texts = shown.flatten.eraseDups ∧
      texts.Nodup ∧
      (∀ text, text ∈ texts ↔ ∃ passages ∈ shown, text ∈ passages) ∧
      texts.Pairwise fun s t => shown.flatten.idxOf s < shown.flatten.idxOf t := by
  refine ⟨shown.flatten.eraseDups, ?_, rfl, nodup_eraseDups _, fun text => ?_,
    pairwise_idxOf_eraseDups _⟩
  · have hnonempty : ¬ (Value.str typed).eqv (.str "") = true := by
      simpa [Value.eqv] using htyped
    have hfold := foldlM_addHit hshown []
    rw [suggest, if_neg hnonempty, outcome_bind_of_ok hsearch, outcome_liftExcept]
    exact congrArg (·, state') hfold
  · rw [List.mem_eraseDups, List.mem_flatten]

def monsters : Field := { name := "monsters", type := .string }

/-- Hits that show monsters, or something else, or nothing. -/
def monsterHits : List IndexHit := [
  { internalId := .str "1"
    highlights := .object [
      ("monsters", .arr [.str "Dragon", .str "Drake", .str "Dragon"]),
      ("title", .arr [.str "Drums"])] },
  { internalId := .str "2", highlights := .object [("title", .ofInt 7)] },
  { internalId := .str "3"
    highlights := .object [("monsters", .arr [.str "Dryad", .str "Drake"])] },
  { internalId := .str "4", highlights := .object [("monsters", .null)] }]

/-- An index that finds them whatever is typed. -/
def monsterIndex : IndexClient Unit where
  search _ := return { hits := monsterHits }
  lookup _ := return none
  termVectors _ _ := return []

theorem outcome_suggest_firstSeen_monsters :
    "Dr" ≠ "" ∧
      outcome
          (monsterIndex.search (suggestionRequest suggestionSize monsters.name (.str "Dr"))) () =
        (.ok { hits := monsterHits }, ()) ∧
      List.Forall₂ (IndexHit.Shows monsters.name) monsterHits
        [["Dragon", "Drake", "Dragon"], [], ["Dryad", "Drake"], []] ∧
      outcome (suggest monsterIndex suggestionSize monsters (.str "Dr")) () =
        (.ok [.str "Dragon", .str "Drake", .str "Dryad"], ()) := by
  have hshown : List.Forall₂ (IndexHit.Shows monsters.name) monsterHits
      [["Dragon", "Drake", "Dragon"], [], ["Dryad", "Drake"], []] :=
    .cons ⟨_, rfl, .inl rfl⟩ <| .cons ⟨_, rfl, .inr ⟨rfl, rfl⟩⟩ <| .cons ⟨_, rfl, .inl rfl⟩ <|
      .cons ⟨_, rfl, .inr ⟨rfl, rfl⟩⟩ .nil
  have hsearch : outcome (monsterIndex.search
      (suggestionRequest suggestionSize monsters.name (.str "Dr"))) () =
        (.ok { hits := monsterHits }, ()) := rfl
  obtain ⟨texts, houtcome, rfl, -⟩ := outcome_suggest_firstSeen (by decide) hsearch hshown
  exact ⟨by decide, hsearch, hshown, houtcome⟩

end FacetSearch
