import FacetSearch.Boost
import FacetSearch.Order.Runs

/-!
# Weights of terms

A term weighs the more, the more often a document has it and the fewer documents of the corpus
have it. `termScore` is the weight of one term, and `topTerms` takes the heaviest of a list:
weights fall along the result, and equal weights keep the order they came in. Weights come from
outside like all values. One that is not a number is neither heavier nor lighter than any other, so
no order follows from it, and others cannot be compared at all; what then becomes of a list is up to
the comparisons that are made when it is sorted by its runs.
-/

namespace FacetSearch

/-- The corpus that a term is weighed against. -/
structure Corpus where
  totalDocs : Value := .ofInt 0
  boost : Value := Boost.neutral

/-- `sqrt termFreq * (ln ((totalDocs + 1) / (docFreq + 1)) + 1)`, times the boost. -/
def termScore (termFreq docFreq : Value) (corpus : Corpus) : Except Error Float := do
  let tf ← squareRoot (← termFreq.toDouble)
  let documents := (← corpus.totalDocs.toDouble) + 1.0
  let holders := (← docFreq.toDouble) + 1.0
  let idf := (← naturalLog (← divide documents holders)) + 1.0
  return tf * idf * (← corpus.boost.toDouble)

/-- How a score came about. -/
def scoreDescription (termFreq docFreq : Value) (corpus : Corpus) : Except Error String := do
  return "TFIDFScorer(tf=" ++ (← termFreq.text) ++ ", df=" ++ (← docFreq.text) ++ ", docs=" ++
    (← corpus.totalDocs.text) ++ ")"

/-- A term of a field with its weight. -/
structure TermWeight where
  field : Value
  term : Value
  weight : Value

namespace TermWeight

/-- The term weighs less than another one. -/
def lighter (a b : TermWeight) : Bool :=
  match a.weight.lt b.weight with
  | .ok less => less
  | .error _ => false

def notLighter (a b : TermWeight) : Bool := !a.lighter b

/-- The weight is a number, and not one that has no order. -/
def isNumeric (a : TermWeight) : Bool :=
  match a.weight.number? with
  | some n => !n.isNaN
  | none => false

/-- The terms by falling weight. Numbers have an order, so that it does not matter how they are
sorted as long as equal ones stay as they are; of other weights it does. -/
def heaviestFirst (weights : List TermWeight) : Except Error (List TermWeight) :=
  if weights.all isNumeric then .ok (weights.mergeSort notLighter)
  else List.reverse <$> Order.sort (fun a b => a.weight.lt b.weight) weights.reverse

end TermWeight

/-- The entries before a limit; a negative limit leaves as many out at the end, and without a limit
all are taken. -/
def takeLimit {α : Type} (limit : Value) (xs : List α) : Except Error (List α) :=
  match limit, limit.number? with
  | .null, _ => .ok xs
  | _, some (.int n) =>
    .ok (if 0 ≤ n then xs.take n.toNat else xs.take (xs.length - (-n).toNat))
  | _, _ => .error (.fault .notALimit)

/-- The heaviest terms, heaviest first. -/
def topTerms (weights : List TermWeight) (limit : Value) : Except Error (List TermWeight) := do
  takeLimit limit (← TermWeight.heaviestFirst weights)

end FacetSearch
