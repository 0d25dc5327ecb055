import CompletionCache.Backend.Basic

/-!
# A plain table as a cache

A `TableCache` returns whatever was stored under a key, expired or not, and while it is out of order
every operation fails with the same message. It has no rules of its own, so what a manager adds to
its backend can be seen over it.
-/

set_option autoImplicit false

namespace CompletionCache

/-- A plain table of entries, and the message with which its operations fail, if they do. -/
structure TableCache where
  entries : List (String × Entry)
  outage : Option String

namespace TableCache

/-- The name of this kind of cache. -/
def name : String := "stub"

/-- The lifetime of every entry. -/
def ttl : Duration := Duration.ofSeconds 10

/-- The empty table, in order. -/
def empty : TableCache := ⟨[], none⟩

/-- The table with an entry under a key. -/
def put (table : TableCache) (key : String) (entry : Entry) : TableCache :=
  { table with entries := (key, entry) :: table.entries.filter fun item => item.1 != key }

/-- Fails while the table is out of order, and else goes on with it. -/
def whileInOrder {α : Type} (step : TableCache → α × TableCache) : Action TableCache α := do
  match (← getThe TableCache).outage with
  | some message => throw (.failure .runtime message ⟨none, none, some name⟩)
  | none => modifyGet step

/-- The statistics: the count of entries and nothing else. -/
def stats (table : TableCache) : Stats :=
  ⟨name, table.entries.length, none, none, 0, 0, none, .zero, 0, none⟩

/-- The operations of this kind of cache. -/
def backend : Backend TableCache where
  name := name
  get _ key := whileInOrder fun table => (table.entries.lookup key, table)
  set clocks key response model tokens := whileInOrder fun table =>
    ((), table.put key (Entry.create clocks.wall key response model tokens ttl))
  delete _ key := whileInOrder fun table =>
    ((table.entries.lookup key).isSome,
      { table with entries := table.entries.filter fun item => item.1 != key })
  clear _ := whileInOrder fun table => ((), { table with entries := [] })
  stats _ := whileInOrder fun table => (table.stats, table)
  health _ := return HealthReport.ofHealthy name

end TableCache

end CompletionCache
