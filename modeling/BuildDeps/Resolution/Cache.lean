import BuildDeps.JvmPackage
import BuildDeps.Label
import BuildDeps.Table

/-!
The labels found for packages so far, up to a number of packages.

Every question and every insertion counts one tick, and an entry carries the tick of its last use.
The recency list has the ticks in use with their packages, oldest first, so the package to give up
is at its head.  Only labels that were found are kept: a package that nothing provides yet may be
provided later in a run.
-/

namespace BuildDeps.Resolution

/-- The label found for a package, and the tick of its last use. -/
structure Cache.Entry where
  label : Label
  lastUse : Nat
deriving DecidableEq, Repr, Inhabited

/-- A bounded table of labels found.  The program counts its ticks in 64 bits; here they are natural
numbers, which makes no difference below `2 ^ 64` questions and insertions, since each is one tick. -/
structure Cache where
  capacity : Nat
  entries : Table JvmPackage Cache.Entry
  /-- The ticks of last use with their packages, oldest first. -/
  recency : List (Nat × JvmPackage)
  tick : Nat
deriving DecidableEq, Repr

namespace Cache

/-- The number of packages that a run keeps. -/
def defaultCapacity : Nat := 10000

/-- An empty cache; it has room for one package at least. -/
def ofCapacity (capacity : Nat) : Cache :=
  ⟨max capacity 1, Table.empty, [], 0⟩

instance : Inhabited Cache := ⟨ofCapacity defaultCapacity⟩

/-- The number of packages in the cache. -/
def size (cache : Cache) : Nat := cache.entries.size

/-- Whether the cache holds no package. -/
def isEmpty (cache : Cache) : Bool := cache.size = 0

/-- The label of a package, which is now the one used last. -/
def get (cache : Cache) (package : JvmPackage) : Option Label × Cache :=
  let tick := cache.tick + 1
  match cache.entries.get? package with
  | none => (none, { cache with tick })
  | some entry =>
    (some entry.label,
      { cache with
        entries := cache.entries.insert package ⟨entry.label, tick⟩
        recency := cache.recency.filter (·.1 ≠ entry.lastUse) ++ [(tick, package)]
        tick })

/-- Gives up packages from the head of the recency list until the entries fit. -/
def fit (capacity : Nat) (entries : Table JvmPackage Entry) :
    List (Nat × JvmPackage) → Table JvmPackage Entry × List (Nat × JvmPackage)
  | [] => (entries, [])
  | oldest :: rest =>
    if entries.size ≤ capacity then (entries, oldest :: rest)
    else fit capacity (entries.erase oldest.2) rest

/-- Keeps the label of a package, which is now the one used last. -/
def insert (cache : Cache) (package : JvmPackage) (label : Label) : Cache :=
  match cache.get package with
  | (some _, used) =>
    { used with entries := used.entries.insert package ⟨label, used.tick⟩ }
  | (none, used) =>
    let (entries, recency) :=
      fit used.capacity (used.entries.insert package ⟨label, used.tick⟩)
        (used.recency ++ [(used.tick, package)])
    { used with entries, recency }

end Cache

end BuildDeps.Resolution
