import FacetSearch.Value
import FacetSearch.Week

/-!
# Seeds

A random order is drawn from a seed: the same seed gives the same order. A request may bring its
own; for all others there is one seed, either of the current week or fixed. The clock is looked at
when a seed is wanted, and only then does it matter whether it shows a day.
-/

namespace FacetSearch

/-- Where the seed of a request without one comes from. -/
inductive SeedSource where
  | weekly (clock : Except Error Day)
  | fixed (seed : Value)

/-- The seed for requests that bring none. -/
def SeedSource.current : SeedSource → Except Error Value
  | weekly clock => clock.map fun today => .str (Week.ofDay today).seed
  | fixed seed => .ok seed

/-- The seed of a request: its own unless that is nothing or the empty text. -/
def SeedSource.seedFor (source : SeedSource) : Value → Except Error Value
  | .null | .str "" => source.current
  | own => .ok own

end FacetSearch
