import BuildDeps.Proofs.Collections
import BuildDeps.Resolution.Cache

/-!
A cache as the list of its packages, the one used last first.

An ideal bounded cache is a list of pairs that every use moves to the front, and that is cut at its end
(`Recent`).  The entries of a cache and its recency list say the same of each package (`InStep`), so
that the recency list, read from its end, is such a list.  Every request keeps the two in step and does
to the list what it does to the ideal cache.
-/

namespace BuildDeps.Resolution

/-- Packages with their labels, the one used last first. -/
abbrev Recent := List (JvmPackage × Label)

/-- What is asked of a cache. -/
inductive Request where
  | get (package : JvmPackage)
  | insert (package : JvmPackage) (label : Label)
deriving DecidableEq, Repr

variable {package other : JvmPackage} {label : Label} {tick capacity : Nat} {cache : Cache}

namespace Recent

/-- The label of a package. -/
def label? (recent : Recent) (package : JvmPackage) : Option Label :=
  (recent.find? (·.1 = package)).map (·.2)

/-- Puts a package at the front. -/
def use (recent : Recent) (package : JvmPackage) (label : Label) : Recent :=
  (package, label) :: recent.filter (·.1 ≠ package)

/-- The answer to a request, and the list after it. -/
def serve (capacity : Nat) (recent : Recent) : Request → Option Label × Recent
  | .get package =>
    match recent.label? package with
    | some label => (some label, recent.use package label)
    | none => (none, recent)
  | .insert package label => (none, (recent.use package label).take capacity)

/-- The list after requests. -/
def after (capacity : Nat) (recent : Recent) (requests : List Request) : Recent :=
  requests.foldl (fun recent request => (recent.serve capacity request).2) recent

/-- What shows of requests: the answer to each, and the number of pairs after it. -/
def observe (capacity : Nat) (recent : Recent) : List Request → List (Option Label × Nat)
  | [] => []
  | request :: rest =>
    let served := recent.serve capacity request
    (served.1, served.2.length) :: observe capacity served.2 rest

end Recent

namespace Cache

variable {entries : Table JvmPackage Entry} {recency : List (Nat × JvmPackage)}
  {entry : Entry}

/-- The answer to a request, and the cache after it. -/
def serve (cache : Cache) : Request → Option Label × Cache
  | .get package => cache.get package
  | .insert package label => (none, cache.insert package label)

/-- What shows of requests: the answer to each, and the size after it. -/
def observe (cache : Cache) : List Request → List (Option Label × Nat)
  | [] => []
  | request :: rest =>
    let served := cache.serve request
    (served.1, served.2.size) :: observe served.2 rest

/-- The cache after requests. -/
def after (cache : Cache) (requests : List Request) : Cache :=
  requests.foldl (fun cache request => (cache.serve request).2) cache

/-! ### Entries and recency in step -/

/-- The entries and the recency list of a cache say the same: a package is listed, once, by the tick of
its last use, and no two packages have one tick. -/
structure InStep (entries : Table JvmPackage Entry) (recency : List (Nat × JvmPackage)) : Prop where
  distinct : entries.keys.Nodup
  ascending : recency.Pairwise (·.1 < ·.1)
  listed : ∀ {tick package}, (tick, package) ∈ recency ↔
    ∃ label, entries.get? package = some ⟨label, tick⟩

/-- The entries in the order of a recency list, from its end. -/
def inOrder (entries : Table JvmPackage Entry) (recency : List (Nat × JvmPackage)) : Recent :=
  recency.reverse.filterMap fun use => (entries.get? use.2).map fun entry => (use.2, entry.label)

namespace InStep

theorem empty : InStep Table.empty [] where
  distinct := List.nodup_nil
  ascending := List.Pairwise.nil
  listed := by simp

/-- A package that is listed has an entry with that tick. -/
theorem exists_entry (inStep : InStep entries recency) {use : Nat × JvmPackage}
    (member : use ∈ recency) : ∃ label, entries.get? use.2 = some ⟨label, use.1⟩ :=
  inStep.listed.1 member

/-- A package that has an entry is listed with its tick. -/
theorem mem_recency (inStep : InStep entries recency) (found : entries.get? package = some entry) :
    (entry.lastUse, package) ∈ recency :=
  inStep.listed.2 ⟨entry.label, found⟩

/-- No package is listed twice, since its entry has one tick. -/
theorem nodup_packages (inStep : InStep entries recency) : (recency.map (·.2)).Nodup := by
  rw [List.nodup_iff_pairwise_ne, List.pairwise_map]
  apply inStep.ascending.imp_of_mem
  intro earlier later earlierMember laterMember less same
  obtain ⟨_, first⟩ := inStep.exists_entry earlierMember
  obtain ⟨_, second⟩ := inStep.exists_entry laterMember
  rw [same, second, Option.some.injEq, Entry.mk.injEq] at first
  exact less.ne' first.2

/-- The recency list is as long as the table. -/
theorem length_recency (inStep : InStep entries recency) : recency.length = entries.size := by
  have perm : (recency.map (·.2)).Perm entries.keys := by
    rw [List.perm_ext_iff_of_nodup inStep.nodup_packages inStep.distinct]
    intro package
    rw [Table.mem_keys, Table.contains_iff, List.mem_map]
    constructor
    · rintro ⟨use, member, rfl⟩
      obtain ⟨label, found⟩ := inStep.exists_entry member
      exact ⟨_, found⟩
    · rintro ⟨entry, found⟩
      exact ⟨_, inStep.mem_recency found, rfl⟩
  simpa [Table.keys, Table.size] using perm.length_eq

/-- The pairs name the packages of the recency list, from its end. -/
theorem map_inOrder (inStep : InStep entries recency) :
    (inOrder entries recency).map (·.1) = recency.reverse.map (·.2) := by
  rw [inOrder, List.map_filterMap, ← List.filterMap_eq_map]
  apply List.filterMap_congr
  intro use member
  obtain ⟨label, found⟩ := inStep.exists_entry (List.mem_reverse.1 member)
  simp [found]

/-- There are as many pairs as entries. -/
theorem length_inOrder (inStep : InStep entries recency) :
    (inOrder entries recency).length = entries.size := by
  have same := congrArg List.length inStep.map_inOrder
  simpa [inStep.length_recency] using same

/-- The pairs are the entries without their ticks. -/
theorem mem_inOrder (inStep : InStep entries recency) :
    (package, label) ∈ inOrder entries recency ↔
      ∃ tick, entries.get? package = some ⟨label, tick⟩ := by
  rw [inOrder, List.mem_filterMap]
  constructor
  · rintro ⟨use, member, found⟩
    obtain ⟨kept, present⟩ := inStep.exists_entry (List.mem_reverse.1 member)
    rw [present] at found
    cases found
    exact ⟨_, present⟩
  · rintro ⟨tick, found⟩
    refine ⟨(tick, package), List.mem_reverse.2 (inStep.listed.2 ⟨label, found⟩), ?_⟩
    simp [found]

/-- Looking up a pair is looking up an entry. -/
theorem label?_inOrder (inStep : InStep entries recency) (package : JvmPackage) :
    (inOrder entries recency).label? package = (entries.get? package).map (·.label) := by
  unfold Recent.label?
  cases found : (inOrder entries recency).find? (·.1 = package) with
  | some pair =>
      have same : pair.1 = package := by simpa using List.find?_some found
      subst same
      obtain ⟨tick, present⟩ := inStep.mem_inOrder.1 (List.mem_of_find?_eq_some found)
      simp [present]
  | none =>
      cases present : entries.get? package with
      | none => rfl
      | some entry =>
          have member := inStep.mem_inOrder.2 ⟨entry.lastUse, present⟩
          simpa using List.find?_eq_none.1 found _ member

/-! ### Steps -/

/-- A package that is not there is listed last. -/
theorem push (inStep : InStep entries recency) (label : Label) (fresh : entries.get? package = none)
    (later : ∀ use ∈ recency, use.1 < tick) :
    InStep (entries.insert package ⟨label, tick⟩) (recency ++ [(tick, package)]) ∧
      inOrder (entries.insert package ⟨label, tick⟩) (recency ++ [(tick, package)]) =
        (package, label) :: inOrder entries recency := by
  have unlisted : ∀ use ∈ recency, use.2 ≠ package := by
    intro use member
    obtain ⟨_, found⟩ := inStep.exists_entry member
    exact Table.ne_of_get? found fresh
  refine ⟨⟨Table.nodup_keys_insert inStep.distinct, ?_, ?_⟩, ?_⟩
  · rw [List.pairwise_append]
    refine ⟨inStep.ascending, List.pairwise_singleton _ _, ?_⟩
    intro use member last isLast
    rw [List.mem_singleton.1 isLast]
    exact later use member
  · -- The package itself was not there, so that only the new use lists it.
    intro when other
    rw [List.mem_append, List.mem_singleton, Prod.mk.injEq, Table.get?_insert, inStep.listed]
    by_cases same : other = package
    · subst same
      simp [fresh, eq_comm]
    · simp [same]
  · rw [inOrder, inOrder, List.reverse_append, List.reverse_singleton, List.singleton_append,
      List.filterMap_cons]
    simp only [Table.get?_insert, if_true, Option.map_some]
    congr 1
    apply List.filterMap_congr
    intro use member
    rw [if_neg (unlisted use (List.mem_reverse.1 member))]

/-- The tick of a package's last use is listed for that package alone. -/
theorem tick_eq_iff (inStep : InStep entries recency) (found : entries.get? package = some entry)
    {use : Nat × JvmPackage} (member : use ∈ recency) :
    use.1 = entry.lastUse ↔ use.2 = package := by
  have ticks : (recency.map (·.1)).Nodup := by
    rw [List.nodup_iff_pairwise_ne, List.pairwise_map]
    exact inStep.ascending.imp fun less => less.ne
  constructor
  · intro same
    have whole := List.inj_on_of_nodup_map ticks member (inStep.mem_recency found) same
    rw [whole]
  · rintro rfl
    obtain ⟨_, present⟩ := inStep.exists_entry member
    rw [found, Option.some.injEq] at present
    rw [present]

/-- A package that is taken away is no longer listed. -/
theorem erase (inStep : InStep entries recency) (found : entries.get? package = some entry) :
    InStep (entries.erase package) (recency.filter (·.1 ≠ entry.lastUse)) ∧
      inOrder (entries.erase package) (recency.filter (·.1 ≠ entry.lastUse)) =
        (inOrder entries recency).filter (·.1 ≠ package) := by
  refine ⟨⟨Table.nodup_keys_erase inStep.distinct, inStep.ascending.filter _, ?_⟩, ?_⟩
  · intro tick other
    rw [List.mem_filter, Table.get?_erase, decide_eq_true_iff]
    constructor
    · rintro ⟨member, different⟩
      rw [if_neg fun same => different ((inStep.tick_eq_iff found member).2 same)]
      exact inStep.listed.1 member
    · split
      · rintro ⟨_, impossible⟩
        cases impossible
      · rename_i different
        intro present
        have member := inStep.listed.2 present
        exact ⟨member, fun same => different ((inStep.tick_eq_iff found member).1 same)⟩
  · rw [inOrder, inOrder, ← List.filter_reverse, List.filterMap_filter, List.filter_filterMap]
    apply List.filterMap_congr
    intro use member
    rw [List.mem_reverse] at member
    obtain ⟨kept, present⟩ := inStep.exists_entry member
    have tick := inStep.tick_eq_iff found member
    by_cases same : use.2 = package
    · subst same
      simp [present, tick, Option.filter]
    · simp [present, tick, same, Table.get?_erase, Option.filter]

/-- The package at the head of the list is the last of the pairs. -/
theorem tail {oldest : Nat × JvmPackage} (inStep : InStep entries (oldest :: recency)) :
    InStep (entries.erase oldest.2) recency ∧
      ∃ pair, inOrder entries (oldest :: recency) =
        inOrder (entries.erase oldest.2) recency ++ [pair] := by
  obtain ⟨label, found⟩ := inStep.exists_entry List.mem_cons_self
  obtain ⟨below, _⟩ := List.pairwise_cons.1 inStep.ascending
  have rest : (oldest :: recency).filter (·.1 ≠ oldest.1) = recency := by
    rw [List.filter_cons_of_neg (by simp), List.filter_eq_self]
    intro use member
    simpa using (below use member).ne'
  have stillInStep := (inStep.erase found).1
  rw [rest] at stillInStep
  refine ⟨stillInStep, (oldest.2, label), ?_⟩
  have others : ∀ use ∈ recency, use.2 ≠ oldest.2 := by
    intro use member same
    have unlisted := (List.nodup_cons.1 inStep.nodup_packages).1
    exact unlisted (List.mem_map.2 ⟨use, member, same⟩)
  rw [inOrder, inOrder, List.reverse_cons, List.filterMap_append]
  congr 1
  · apply List.filterMap_congr
    intro use member
    rw [Table.get?_erase, if_neg (others use (List.mem_reverse.1 member))]
  · simp [found]

end InStep

/-! ### Making room -/

/-- Room is made at the head of the recency list. -/
theorem fit_suffix : (fit capacity entries recency).2 <:+ recency := by
  induction recency generalizing entries with
  | nil => exact List.suffix_refl _
  | cons oldest rest ih =>
      unfold fit
      split
      · exact List.suffix_refl _
      · exact ih.trans (List.suffix_cons _ _)

/-- Entries that fit stay as they are. -/
theorem fit_of_size_le (fits : entries.size ≤ capacity) :
    fit capacity entries recency = (entries, recency) := by
  cases recency with
  | nil => rfl
  | cons oldest rest => rw [fit, if_pos fits]

/-- Making room cuts the list of pairs at its end. -/
theorem InStep.fit (inStep : InStep entries recency) (capacity : Nat) :
    InStep (Cache.fit capacity entries recency).1 (Cache.fit capacity entries recency).2 ∧
      inOrder (Cache.fit capacity entries recency).1 (Cache.fit capacity entries recency).2 =
        (inOrder entries recency).take capacity := by
  -- One round gives up the head of the recency list, which is the last pair; since there was a pair
  -- too many, cutting what is left gives what cutting the whole list does.
  induction recency generalizing entries with
  | nil => exact ⟨inStep, List.take_nil.symm⟩
  | cons oldest rest ih =>
      have length := inStep.length_inOrder
      by_cases fits : entries.size ≤ capacity
      · rw [fit_of_size_le fits, List.take_of_length_le (length.trans_le fits)]
        exact ⟨inStep, rfl⟩
      · obtain ⟨stillInStep, pair, order⟩ := inStep.tail
        obtain ⟨fitted, cut⟩ := ih stillInStep
        rw [Cache.fit, if_neg fits]
        refine ⟨fitted, ?_⟩
        rw [order, List.length_append, List.length_singleton] at length
        rw [cut, order, List.take_append_of_le_length (by omega)]

/-- With one package too many, making room takes away the one at the head of the list. -/
theorem InStep.oldest_of_fit (inStep : InStep entries recency)
    (atMostOneOver : entries.size ≤ capacity + 1) (kept : entries.get? package = some entry)
    (lost : (Cache.fit capacity entries recency).1.get? package = none) :
    entries.size = capacity + 1 ∧
      ∀ other used, entries.get? other = some used → other ≠ package →
        entry.lastUse < used.lastUse := by
  have tooMany : ¬ entries.size ≤ capacity := by
    intro fits
    rw [fit_of_size_le fits, kept] at lost
    cases lost
  cases recency with
  | nil =>
      have member := inStep.mem_recency kept
      cases member
  | cons oldest rest =>
      have smaller : (entries.erase oldest.2).size ≤ capacity := by
        have length := inStep.length_recency
        have tail := inStep.tail.1.length_recency
        rw [List.length_cons] at length
        omega
      have isOldest : package = oldest.2 := by
        rw [Cache.fit, if_neg tooMany, fit_of_size_le smaller, Table.get?_erase, kept] at lost
        simpa using lost
      refine ⟨by omega, ?_⟩
      intro other used found different
      have first := (inStep.tick_eq_iff kept List.mem_cons_self).2 isOldest.symm
      rcases List.mem_cons.1 (inStep.mem_recency found) with same | later
      · exact absurd (congrArg (·.2) same) (isOldest ▸ different)
      · exact first ▸ (List.pairwise_cons.1 inStep.ascending).1 _ later

/-! ### Requests -/

/-- The pairs of a cache, the one used last first. -/
def recent (cache : Cache) : Recent :=
  inOrder cache.entries cache.recency

/-- What holds of every cache in use. -/
structure Consistent (cache : Cache) : Prop where
  inStep : InStep cache.entries cache.recency
  elapsed : ∀ use ∈ cache.recency, use.1 ≤ cache.tick
  bounded : cache.size ≤ cache.capacity

/-- A cache served a request as the list of its pairs is served. -/
structure ServedAs (cache : Cache) (served : Option Label × Cache)
    (expected : Option Label × Recent) : Prop where
  answer : served.1 = expected.1
  recent : served.2.recent = expected.2
  consistent : served.2.Consistent
  capacity : served.2.capacity = cache.capacity
  tick : served.2.tick = cache.tick + 1

/-- A cache without entries is consistent. -/
theorem consistent_ofCapacity (capacity : Nat) : (ofCapacity capacity).Consistent where
  inStep := .empty
  elapsed _ member := absurd member List.not_mem_nil
  bounded := Nat.zero_le _

/-- The size of a cache is the number of its pairs. -/
theorem Consistent.size_eq (consistent : cache.Consistent) : cache.size = cache.recent.length :=
  consistent.inStep.length_inOrder.symm

/-- The pairs of a cache answer as its entries do. -/
theorem Consistent.label?_recent (consistent : cache.Consistent) (package : JvmPackage) :
    cache.recent.label? package = (cache.entries.get? package).map (·.label) :=
  consistent.inStep.label?_inOrder package

/-- The next tick is later than all ticks in use. -/
theorem Consistent.earlier (consistent : cache.Consistent) {use : Nat × JvmPackage}
    (member : use ∈ cache.recency) : use.1 < cache.tick + 1 :=
  Nat.lt_succ_of_le (consistent.elapsed use member)

/-- A package that is not there is put in front of the others. -/
theorem Consistent.push (consistent : cache.Consistent)
    (missing : cache.entries.get? package = none) (label : Label) :
    InStep (cache.entries.insert package ⟨label, cache.tick + 1⟩)
        (cache.recency ++ [(cache.tick + 1, package)]) ∧
      inOrder (cache.entries.insert package ⟨label, cache.tick + 1⟩)
        (cache.recency ++ [(cache.tick + 1, package)]) = (package, label) :: cache.recent :=
  consistent.inStep.push label missing fun _ member => consistent.earlier member

/-- The cache after one more use of a package, which is given a label, in place of its last use. -/
def reuse (cache : Cache) (package : JvmPackage) (last : Nat) (label : Label) : Cache :=
  { cache with
    entries := cache.entries.insert package ⟨label, cache.tick + 1⟩
    recency := cache.recency.filter (·.1 ≠ last) ++ [(cache.tick + 1, package)]
    tick := cache.tick + 1 }

/-- Using a package that is there moves it to the front, with the label that it is given. -/
theorem Consistent.reuse (consistent : cache.Consistent)
    (found : cache.entries.get? package = some entry) (label : Label) :
    (cache.reuse package entry.lastUse label).Consistent ∧
      (cache.reuse package entry.lastUse label).recent = cache.recent.use package label := by
  -- It is taken away first, and is then a package that is not there.
  obtain ⟨erased, order⟩ := consistent.inStep.erase found
  have fresh : (cache.entries.erase package).get? package = none := by
    rw [Table.get?_erase, if_pos rfl]
  have earlier : ∀ use ∈ cache.recency.filter (·.1 ≠ entry.lastUse), use.1 < cache.tick + 1 := by
    intro use member
    exact consistent.earlier (List.mem_of_mem_filter member)
  obtain ⟨pushed, front⟩ := erased.push label fresh earlier
  rw [Table.insert_erase] at pushed front
  rw [order] at front
  refine ⟨⟨pushed, ?_, ?_⟩, front⟩
  · intro use member
    rcases List.mem_append.1 member with old | last
    · exact (earlier use old).le
    · exact (congrArg Prod.fst (List.mem_singleton.1 last)).le
  · have fewer : (cache.recency.filter (·.1 ≠ entry.lastUse)).length < cache.recency.length := by
      rw [List.length_filter_lt_length_iff_exists]
      exact ⟨_, consistent.inStep.mem_recency found, by simp⟩
    have length := pushed.length_recency
    rw [List.length_append, List.length_singleton] at length
    have before : cache.recency.length = cache.size := consistent.inStep.length_recency
    have bounded := consistent.bounded
    show (cache.entries.insert package ⟨label, cache.tick + 1⟩).size ≤ cache.capacity
    omega

/-- A question that is answered is one more use of the package. -/
theorem get_of_get?_eq_some (found : cache.entries.get? package = some entry) :
    cache.get package =
      (some entry.label, cache.reuse package entry.lastUse entry.label) := by
  rw [get, found]
  rfl

/-- A question that is not answered counts a tick, and no more. -/
theorem get_of_get?_eq_none (missing : cache.entries.get? package = none) :
    cache.get package = (none, { cache with tick := cache.tick + 1 }) := by
  rw [get, missing]

/-- Inserting a package that is there is one more use of it, with the label that it is given. -/
theorem insert_of_get?_eq_some (found : cache.entries.get? package = some entry) :
    cache.insert package label = cache.reuse package entry.lastUse label := by
  rw [insert, get_of_get?_eq_some found]
  simp only [reuse, Table.insert_insert]

/-- A package that is not there is put last, and room is made for it. -/
theorem insert_of_get?_eq_none (missing : cache.entries.get? package = none) :
    let fitted := fit cache.capacity (cache.entries.insert package ⟨label, cache.tick + 1⟩)
      (cache.recency ++ [(cache.tick + 1, package)])
    cache.insert package label =
      { cache with entries := fitted.1, recency := fitted.2, tick := cache.tick + 1 } := by
  rw [insert, get_of_get?_eq_none missing]

/-- A question moves a package that is there to the front, and changes nothing otherwise. -/
theorem Consistent.servedAs_get (consistent : cache.Consistent) (package : JvmPackage) :
    cache.ServedAs (cache.get package) (cache.recent.serve cache.capacity (.get package)) := by
  have known := consistent.label?_recent package
  cases found : cache.entries.get? package with
  | none =>
      rw [found] at known
      rw [get_of_get?_eq_none found]
      simp only [Recent.serve, known]
      have elapsed : ∀ use ∈ cache.recency, use.1 ≤ cache.tick + 1 :=
        fun use member => (consistent.elapsed use member).trans (Nat.le_succ _)
      exact ⟨rfl, rfl, ⟨consistent.inStep, elapsed, consistent.bounded⟩, rfl, rfl⟩
  | some entry =>
      rw [found] at known
      rw [get_of_get?_eq_some found]
      simp only [Recent.serve, known]
      obtain ⟨reused, front⟩ := consistent.reuse found entry.label
      exact ⟨rfl, front, reused, rfl, rfl⟩

/-- An insertion puts the package in front, and cuts the list only where the package was not there
before. -/
theorem Consistent.servedAs_insert (consistent : cache.Consistent) (package : JvmPackage)
    (label : Label) :
    cache.ServedAs (none, cache.insert package label)
      (cache.recent.serve cache.capacity (.insert package label)) := by
  cases found : cache.entries.get? package with
  | some entry =>
      rw [insert_of_get?_eq_some found]
      obtain ⟨reused, front⟩ := consistent.reuse found label
      refine ⟨rfl, ?_, reused, rfl, rfl⟩
      have bounded := reused.bounded
      rw [reused.size_eq, front] at bounded
      exact front.trans (List.take_of_length_le bounded).symm
  | none =>
      rw [insert_of_get?_eq_none found]
      obtain ⟨pushed, front⟩ := consistent.push found label
      obtain ⟨fitted, cut⟩ := pushed.fit cache.capacity
      have unlisted : cache.recent.filter (·.1 ≠ package) = cache.recent := by
        rw [List.filter_eq_self]
        rintro ⟨other, kept⟩ member
        obtain ⟨tick, present⟩ := consistent.inStep.mem_inOrder.1 member
        simpa using Table.ne_of_get? present found
      have order : (cache.recent.serve cache.capacity (.insert package label)).2 =
          ((package, label) :: cache.recent).take cache.capacity := by
        rw [Recent.serve, Recent.use, unlisted]
      rw [front] at cut
      refine ⟨rfl, cut.trans order.symm, ⟨fitted, ?_, ?_⟩, rfl, rfl⟩
      · intro use member
        rcases List.mem_append.1 (fit_suffix.subset member) with old | last
        · exact (consistent.earlier old).le
        · rw [List.mem_singleton.1 last]
      · refine fitted.length_inOrder.symm.trans_le ?_
        rw [cut, List.length_take]
        exact min_le_left _ _

/-- Every request is served as the ideal cache serves it, and leaves a consistent cache. -/
theorem Consistent.servedAs (consistent : cache.Consistent) (request : Request) :
    cache.ServedAs (cache.serve request) (cache.recent.serve cache.capacity request) := by
  cases request with
  | get package => exact consistent.servedAs_get package
  | insert package label => exact consistent.servedAs_insert package label

/-! ### Any number of requests -/

/-- Requests show what they show of the ideal cache. -/
theorem Consistent.observe_eq (consistent : cache.Consistent) (requests : List Request) :
    cache.observe requests = cache.recent.observe cache.capacity requests := by
  induction requests generalizing cache with
  | nil => rfl
  | cons request rest ih =>
      have served := consistent.servedAs request
      simp only [observe, Recent.observe]
      rw [served.answer, ih served.consistent, served.consistent.size_eq, served.recent,
        served.capacity]

/-- Requests lead to consistent caches with the pairs of the ideal cache, and count the ticks. -/
theorem Consistent.after (consistent : cache.Consistent) (requests : List Request) :
    (cache.after requests).Consistent ∧
      (cache.after requests).recent = cache.recent.after cache.capacity requests ∧
      (cache.after requests).capacity = cache.capacity ∧
      (cache.after requests).tick = cache.tick + requests.length := by
  induction requests generalizing cache with
  | nil => exact ⟨consistent, rfl, rfl, rfl⟩
  | cons request rest ih =>
      have served := consistent.servedAs request
      obtain ⟨later, recent, capacity, tick⟩ := ih served.consistent
      rw [served.recent, served.capacity] at recent
      rw [served.tick, Nat.add_assoc, Nat.add_comm 1] at tick
      exact ⟨later, recent, capacity.trans served.capacity, tick⟩

/-- Inserting a package that is not there takes away at most the one whose last use is the furthest
back, from a cache that is full. -/
theorem Consistent.oldest_of_evicted_by_insert {asked : JvmPackage} (consistent : cache.Consistent)
    (missing : cache.entries.get? asked = none) (kept : cache.entries.get? package = some entry)
    (lost : (cache.insert asked label).entries.get? package = none) :
    cache.size = cache.capacity ∧
      ∀ other used, cache.entries.get? other = some used → other ≠ package →
        entry.lastUse < used.lastUse := by
  rw [insert_of_get?_eq_none missing] at lost
  have pushed := (consistent.push missing label).1
  have grown := pushed.length_recency
  rw [List.length_append, List.length_singleton, consistent.inStep.length_recency] at grown
  have same : ∀ {other used}, cache.entries.get? other = some used →
      (cache.entries.insert asked ⟨label, cache.tick + 1⟩).get? other = some used := by
    intro other used present
    rw [Table.get?_insert, if_neg (Table.ne_of_get? present missing), present]
  have bounded : cache.entries.size ≤ cache.capacity := consistent.bounded
  obtain ⟨full, oldest⟩ := pushed.oldest_of_fit (by omega) (same kept) lost
  refine ⟨show cache.entries.size = cache.capacity by omega, ?_⟩
  intro other used present different
  exact oldest other used (same present) different

/-- A package that a request takes away is the one whose last use is the furthest back, and there was
no room left. -/
theorem Consistent.oldest_of_evicted (consistent : cache.Consistent) (request : Request)
    (kept : cache.entries.get? package = some entry)
    (lost : (cache.serve request).2.entries.get? package = none) :
    cache.size = cache.capacity ∧
      ∀ other used, cache.entries.get? other = some used → other ≠ package →
        entry.lastUse < used.lastUse := by
  have stays : ∀ {asked last given}, (cache.reuse asked last given).entries.get? package ≠ none := by
    intro asked last given
    rw [Cache.reuse, Table.get?_insert, kept]
    split <;> simp
  cases request with
  | get asked =>
      cases found : cache.entries.get? asked with
      | none =>
          rw [serve, get_of_get?_eq_none found, kept] at lost
          cases lost
      | some present =>
          rw [serve, get_of_get?_eq_some found] at lost
          exact absurd lost stays
  | insert asked label =>
      cases found : cache.entries.get? asked with
      | some present =>
          rw [serve, insert_of_get?_eq_some found] at lost
          exact absurd lost stays
      | none => exact consistent.oldest_of_evicted_by_insert found kept lost

/-- A cache of any capacity answers requests as the ideal cache of that capacity does, and is as large
after each of them; there is room for one package in any case.  After any requests the cache holds the
pairs of the ideal cache, its entries and its recency list are in step, its tick is the number of the
requests, and it is within its capacity.  The next request takes away at most the package whose last
use is the furthest back, and only from a cache that is full. -/
theorem refines_recent (capacity : Nat) (requests : List Request) :
    (ofCapacity capacity).observe requests = Recent.observe (max capacity 1) [] requests ∧
    let cache := (ofCapacity capacity).after requests
    cache.recent = Recent.after (max capacity 1) [] requests ∧
      InStep cache.entries cache.recency ∧ cache.tick = requests.length ∧
      cache.size ≤ max capacity 1 ∧
      ∀ request package entry, cache.entries.get? package = some entry →
        (cache.serve request).2.entries.get? package = none →
          cache.size = max capacity 1 ∧
            ∀ other used, cache.entries.get? other = some used → other ≠ package →
              entry.lastUse < used.lastUse := by
  have begun := consistent_ofCapacity capacity
  obtain ⟨consistent, recent, sameCapacity, tick⟩ := begun.after requests
  have bound : ((ofCapacity capacity).after requests).capacity = max capacity 1 := sameCapacity
  refine ⟨begun.observe_eq requests, recent, consistent.inStep, ?_, ?_, ?_⟩
  · exact tick.trans (Nat.zero_add _)
  · exact bound ▸ consistent.bounded
  · intro request package entry kept lost
    rw [← bound]
    exact consistent.oldest_of_evicted request kept lost

/-- In a cache with room for two, the package that was not asked for again is given up. -/
theorem refines_recent_of_two :
    let one : Label := ⟨"", "lib", "one", false⟩
    let two : Label := ⟨"", "lib", "two", false⟩
    let requests : List Request := [.insert ⟨"one"⟩ one, .insert ⟨"two"⟩ two, .get ⟨"one"⟩]
    let cache := (ofCapacity 2).after requests
    cache.entries.get? ⟨"two"⟩ = some ⟨two, 2⟩ ∧
      (cache.serve (.insert ⟨"three"⟩ one)).2.entries.get? ⟨"two"⟩ = none ∧
      cache.entries.get? ⟨"one"⟩ = some ⟨one, 3⟩ ∧ 2 < 3 := by
  intro one two requests cache
  have kept : cache.entries.get? ⟨"two"⟩ = some ⟨two, 2⟩ := by decide
  have lost : (cache.serve (.insert ⟨"three"⟩ one)).2.entries.get? ⟨"two"⟩ = none := by decide
  have other : cache.entries.get? ⟨"one"⟩ = some ⟨one, 3⟩ := by decide
  obtain ⟨_, oldest⟩ := (refines_recent 2 requests).2.2.2.2.2 _ _ _ kept lost
  exact ⟨kept, lost, other, oldest _ _ other (by decide)⟩

end Cache

end BuildDeps.Resolution
