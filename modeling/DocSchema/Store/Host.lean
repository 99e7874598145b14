import DocSchema.Store.Memory

/-!
# DocSchema.Store.Host

Whatever answers requests one after the other, with the time that each answer takes.
-/

namespace DocSchema

/-- Something that answers requests and may change as it does so. -/
structure Host (σ : Type) where
  /-- How long the answer to the next request takes. -/
  delay : σ → Request → Duration
  answer : σ → (r : Request) → r.Result × σ

/-- A catalog in memory and the time of the clock, in milliseconds since 1970. -/
structure ClockedCatalog where
  catalog : Catalog
  clock : Nat

namespace ClockedCatalog

/-- The clock as a value of a document. -/
def now (s : ClockedCatalog) : Int64 := Int64.ofNat s.clock

/-- A catalog in memory as a host: a request first waits, and then is answered at once. A wait ends
with a whole millisecond of the clock. -/
def host : Host ClockedCatalog where
  delay s _ := s.catalog.delay
  answer s r :=
    let s := { s with clock := s.clock + s.catalog.delay.millis }
    let (result, catalog) := s.catalog.answer s.now r
    (result, { s with catalog })

end ClockedCatalog

end DocSchema
