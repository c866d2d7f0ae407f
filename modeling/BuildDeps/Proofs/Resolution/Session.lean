import BuildDeps.Proofs.Resolution.Recency
import BuildDeps.Proofs.Resolution.Transparency
import Mathlib.Data.Finset.Card

/-!
Calls over one cache while what they are resolved against changes.

A call is recorded when it is answered otherwise than by an override or by an export that stands in for
a rule.  Recorded calls are all that shows in the cache: the list of its pairs is what the recorded
answers make of it, each inserted in its turn (`Session.turnsInto_run`).  In that list a package falls
behind by at most one place for each other package that is recorded after it, and a package that was
never recorded is not there.
-/

namespace BuildDeps.Resolution

variable {package other : JvmPackage} {label given : Label} {capacity : Nat} {recent : Recent}
  {uses : List (JvmPackage × Label)}

/-- The insertions of packages with their labels. -/
def insertions (uses : List (JvmPackage × Label)) : List Request :=
  uses.map fun use => .insert use.1 use.2

/-! ### How far a package falls behind -/

namespace Recent

theorem after_append {requests more : List Request} :
    recent.after capacity (requests ++ more) =
      (recent.after capacity requests).after capacity more :=
  List.foldl_append

/-- A package is in the list with its label, and before it are some of the others, each once. -/
structure Behind (recent : Recent) (package : JvmPackage) (label : Label)
    (others : Finset JvmPackage) (front back : Recent) : Prop where
  split : recent = front ++ (package, label) :: back
  distinct : (front.map (·.1)).Nodup
  among : ∀ pair ∈ front, pair.1 ∈ others ∧ pair.1 ≠ package

namespace Behind

variable {others : Finset JvmPackage} {front back : Recent}

/-- A package that is in the list is found there, since those before it are others. -/
theorem label?_eq (behind : recent.Behind package label others front back) :
    recent.label? package = some label := by
  have passed : front.find? (·.1 = package) = none := by
    rw [List.find?_eq_none]
    intro pair member
    simpa using (behind.among pair member).2
  rw [label?, behind.split, List.find?_append, passed]
  simp

/-- As many places are before a package as there are others, at most. -/
theorem length_front_le (behind : recent.Behind package label others front back) :
    front.length ≤ others.card := by
  have among : (front.map (·.1)).toFinset ⊆ others := by
    intro other member
    obtain ⟨pair, inFront, rfl⟩ := List.mem_map.1 (List.mem_toFinset.1 member)
    exact (behind.among pair inFront).1
  calc front.length = (front.map (·.1)).toFinset.card := by
        rw [List.toFinset_card_of_nodup behind.distinct, List.length_map]
    _ ≤ others.card := Finset.card_le_card among

/-- A package that was just used is before all others. -/
theorem of_use (room : 0 < capacity) :
    Behind ((recent.use package label).take capacity) package label ∅ []
      ((recent.filter (·.1 ≠ package)).take (capacity - 1)) where
  split := by rw [use, List.take_cons room, List.nil_append]
  distinct := List.nodup_nil
  among _ member := absurd member List.not_mem_nil

/-- The use of another package puts that one before it. -/
theorem use (behind : recent.Behind package label others front back) (different : other ≠ package)
    (given : Label) : (recent.use other given).Behind package label (insert other others)
      ((other, given) :: front.filter (·.1 ≠ other)) (back.filter (·.1 ≠ other)) where
  split := by
    rw [Recent.use, behind.split, List.filter_append,
      List.filter_cons_of_pos (by simpa using different.symm), List.cons_append]
  distinct := by
    rw [List.map_cons, List.nodup_cons]
    constructor
    · simp
    · exact behind.distinct.sublist (List.filter_sublist.map _)
  among := by
    intro pair member
    rcases List.mem_cons.1 member with rfl | inFront
    · exact ⟨Finset.mem_insert_self _ _, different⟩
    · obtain ⟨known, apart⟩ := behind.among pair (List.mem_of_mem_filter inFront)
      exact ⟨Finset.mem_insert_of_mem known, apart⟩

/-- As long as the others leave room for it, a package is not cut off. -/
theorem take (behind : recent.Behind package label others front back)
    (room : others.card < capacity) :
    Behind (recent.take capacity) package label others front
      (back.take (capacity - front.length - 1)) where
  split := by
    have length := behind.length_front_le
    rw [behind.split, List.take_append, List.take_of_length_le (by omega),
      List.take_cons (by omega)]
  distinct := behind.distinct
  among := behind.among

/-- A package stays while others are used that, all told, leave room for it. -/
theorem label?_after (behind : recent.Behind package label others front back)
    (unused : package ∉ uses.map (·.1))
    (room : (others ∪ (uses.map (·.1)).toFinset).card < capacity) :
    (recent.after capacity (insertions uses)).label? package = some label := by
  induction uses generalizing recent others front back with
  | nil => exact behind.label?_eq
  | cons use rest ih =>
      rw [List.map_cons, List.mem_cons, not_or] at unused
      rw [List.map_cons, List.toFinset_cons, Finset.union_insert, ← Finset.insert_union] at room
      have fewer : (insert use.1 others).card < capacity :=
        (Finset.card_le_card Finset.subset_union_left).trans_lt room
      exact ih ((behind.use (Ne.symm unused.1) use.2).take fewer) unused.2 room

end Behind

/-- A use brings its own pair in, and no other. -/
theorem mem_use {pair : JvmPackage × Label} (member : pair ∈ recent.use package label) :
    pair = (package, label) ∨ pair ∈ recent :=
  (List.mem_cons.1 member).imp_right List.mem_of_mem_filter

/-- Nothing is in the list but what was there and what was inserted. -/
theorem mem_after_insertions {pair : JvmPackage × Label}
    (member : pair ∈ recent.after capacity (insertions uses)) : pair ∈ recent ∨ pair ∈ uses := by
  induction uses generalizing recent with
  | nil => exact Or.inl member
  | cons use rest ih =>
      rcases ih member with kept | later
      · rcases mem_use (List.mem_of_mem_take kept) with rfl | old
        · exact Or.inr List.mem_cons_self
        · exact Or.inl old
      · exact Or.inr (List.mem_cons_of_mem _ later)

/-- A package that is not in the list has no label. -/
theorem label?_eq_none (missing : ∀ pair ∈ recent, pair.1 ≠ package) :
    recent.label? package = none := by
  have unfound : recent.find? (·.1 = package) = none := by
    rw [List.find?_eq_none]
    intro pair member
    simpa using missing pair member
  rw [label?, unfound]
  rfl

end Recent

/-! ### What a call does to the cache -/

namespace Cache

variable {cache next last : Cache} {more : List (JvmPackage × Label)}

/-- A cache turns into another by insertions, as far as its pairs show. -/
structure TurnsInto (cache : Cache) (uses : List (JvmPackage × Label)) (next : Cache) : Prop where
  consistent : next.Consistent
  capacity : next.capacity = cache.capacity
  recent : next.recent = cache.recent.after cache.capacity (insertions uses)

theorem Consistent.turnsInto_self (consistent : cache.Consistent) : cache.TurnsInto [] cache :=
  ⟨consistent, rfl, rfl⟩

/-- What two stretches of requests insert is inserted one after the other. -/
theorem TurnsInto.trans (first : cache.TurnsInto uses next) (second : next.TurnsInto more last) :
    cache.TurnsInto (uses ++ more) last where
  consistent := second.consistent
  capacity := second.capacity.trans first.capacity
  recent := by
    rw [second.recent, first.recent, first.capacity, insertions, insertions, insertions,
      List.map_append, Recent.after_append]

/-- An insertion inserts its own pair. -/
theorem Consistent.turnsInto_insert (consistent : cache.Consistent) (package : JvmPackage)
    (label : Label) : cache.TurnsInto [(package, label)] (cache.insert package label) :=
  have served := consistent.servedAs_insert package label
  ⟨served.consistent, served.capacity, served.recent⟩

/-- A question that the cache answers is one more use of the package. -/
theorem Consistent.turnsInto_get_of_some (consistent : cache.Consistent)
    (kept : (cache.get package).1 = some label) :
    cache.TurnsInto [(package, label)] (cache.get package).2 := by
  have served := consistent.servedAs_get package
  have front : (cache.get package).2.recent = cache.recent.use package label := by
    rw [get_fst, ← consistent.label?_recent] at kept
    rw [served.recent, Recent.serve, kept]
  refine ⟨served.consistent, served.capacity, ?_⟩
  -- The cache is not larger than before, so that cutting takes nothing away.
  have bounded := served.consistent.bounded
  rw [served.consistent.size_eq, served.capacity, front] at bounded
  exact front.trans (List.take_of_length_le bounded).symm

/-- A question that the cache does not answer leaves no trace. -/
theorem Consistent.turnsInto_get_of_none (consistent : cache.Consistent)
    (missing : (cache.get package).1 = none) : cache.TurnsInto [] (cache.get package).2 := by
  have served := consistent.servedAs_get package
  refine ⟨served.consistent, served.capacity, ?_⟩
  rw [get_fst, ← consistent.label?_recent] at missing
  rw [served.recent, Recent.serve, missing]
  rfl

/-- The label that a package was inserted with last is kept until others have taken its place. -/
theorem TurnsInto.get_eq_some {earlier since : List (JvmPackage × Label)}
    (turned : cache.TurnsInto (earlier ++ (package, label) :: since) next)
    (unused : package ∉ since.map (·.1))
    (room : (since.map (·.1)).toFinset.card < cache.capacity) :
    (next.get package).1 = some label := by
  rw [get_fst, ← turned.consistent.label?_recent, turned.recent, insertions, List.map_append,
    Recent.after_append]
  apply (Recent.Behind.of_use (Nat.zero_lt_of_lt room)).label?_after unused
  rwa [Finset.empty_union]

/-- A package that was not inserted is not there. -/
theorem TurnsInto.get?_eq_none {capacity : Nat} (turned : (ofCapacity capacity).TurnsInto uses next)
    (unused : package ∉ uses.map (·.1)) : next.entries.get? package = none := by
  have unlisted : next.recent.label? package = none := by
    apply Recent.label?_eq_none
    intro pair member same
    rw [turned.recent] at member
    rcases Recent.mem_after_insertions member with old | inserted
    · cases old
    · exact unused (List.mem_map.2 ⟨pair, inserted, same⟩)
  rwa [turned.consistent.label?_recent, Option.map_eq_none_iff] at unlisted

end Cache

namespace Context

variable {context : Context} {call : Call} {cache : Cache}

/-- The label that a call is answered with, if neither by an override nor by a stand-in. -/
def recorded? (context : Context) (call : Call) (cache : Cache) : Option Label :=
  match context.config.override? call.package, context.ruleMatch call.origin call.package with
  | some _, _ => none
  | none, .standIn _ => none
  | none, _ => (context.ask call cache).answer

/-- What a call uses: its package with the label that is recorded, or nothing. -/
def usesOf (context : Context) (call : Call) (cache : Cache) : List (JvmPackage × Label) :=
  ((context.recorded? call cache).map (call.package, ·)).toList

/-- A label that is found elsewhere is inserted, and so is one that the cache had, which is used once
more. -/
theorem turnsInto_resolveElsewhere {origin : Origin} {classes : List String}
    (consistent : cache.Consistent) :
    let outcome := context.resolveElsewhere origin package classes cache
    cache.TurnsInto (outcome.answer.map (package, ·)).toList outcome.cache := by
  unfold resolveElsewhere
  split
  · rename_i kept used found
    have turned := consistent.turnsInto_get_of_some (congrArg Prod.fst found)
    rwa [found] at turned
  · rename_i used found
    have turned := consistent.turnsInto_get_of_none (congrArg Prod.fst found)
    rw [found] at turned
    cases context.provider origin.language package with
    | label given => exact turned.trans (turned.consistent.turnsInto_insert package given)
    | runtime | several | nothing => exact turned

/-- A call inserts what is recorded, and nothing else shows in the cache. -/
theorem turnsInto_ask (consistent : cache.Consistent) :
    cache.TurnsInto (context.usesOf call cache) (context.ask call cache).cache := by
  unfold usesOf recorded? ask resolvePackage
  cases override : context.config.override? call.package with
  | some label => exact consistent.turnsInto_self
  | none =>
      cases context.ruleMatch call.origin call.package with
      | unique label => exact consistent.turnsInto_insert call.package label
      | standIn exporter => exact consistent.turnsInto_self
      | absent | several | severalStandIns => exact turnsInto_resolveElsewhere consistent

/-- A cache without the package answers as an empty one. -/
theorem ask_eq_of_missing (context : Context) (missing : cache.entries.get? call.package = none)
    (capacity : Nat) :
    (context.ask call cache).answer = (context.ask call (.ofCapacity capacity)).answer ∧
      (context.ask call cache).diagnostics =
        (context.ask call (.ofCapacity capacity)).diagnostics := by
  have empty : (Cache.ofCapacity capacity).entries.get? call.package = none := rfl
  unfold ask resolvePackage resolveElsewhere
  rw [Cache.get_of_get?_eq_none missing, Cache.get_of_get?_eq_none empty]
  cases context.config.override? call.package with
  | some label => exact ⟨rfl, rfl⟩
  | none =>
      cases context.ruleMatch call.origin call.package <;>
        cases context.provider call.origin.language call.package <;> exact ⟨rfl, rfl⟩

end Context

/-! ### Sessions -/

/-- What happens in a session: what packages are resolved against changes, or a rule asks for one. -/
inductive Event where
  | change (context : Context)
  | ask (call : Call)

/-- What packages are resolved against, and what was found so far. -/
structure Session where
  context : Context
  cache : Cache

namespace Session

/-- A session in which nothing was found yet. -/
def start (context : Context) (capacity : Nat) : Session :=
  ⟨context, .ofCapacity capacity⟩

/-- The session after an event. -/
def step (session : Session) : Event → Session
  | .change context => { session with context }
  | .ask call => { session with cache := (session.context.ask call session.cache).cache }

/-- The session after events. -/
def run (session : Session) (events : List Event) : Session :=
  events.foldl step session

/-- What an event records: a package with its label, or nothing. -/
def recordedBy (session : Session) : Event → List (JvmPackage × Label)
  | .change _ => []
  | .ask call => session.context.usesOf call session.cache

/-- What events record, in their order. -/
def recorded (session : Session) : List Event → List (JvmPackage × Label)
  | [] => []
  | event :: rest => session.recordedBy event ++ (session.step event).recorded rest

variable {session : Session}

/-- A change leaves the cache as it is, and a call inserts what is recorded of it. -/
theorem turnsInto_step (consistent : session.cache.Consistent) (event : Event) :
    session.cache.TurnsInto (session.recordedBy event) (session.step event).cache := by
  cases event with
  | change context => exact consistent.turnsInto_self
  | ask call => exact Context.turnsInto_ask consistent

/-- Events insert what is recorded, each in its turn, and nothing else shows in the cache. -/
theorem turnsInto_run (session : Session) (consistent : session.cache.Consistent)
    (events : List Event) :
    session.cache.TurnsInto (session.recorded events) (session.run events).cache := by
  induction events generalizing session with
  | nil => exact consistent.turnsInto_self
  | cons event rest ih =>
      have first := turnsInto_step consistent event
      exact first.trans (ih _ first.consistent)

/-- Whatever was asked and changed before, a package that the rules leave open has the label that was
recorded for it last, as long as fewer other packages than the cache has room for were recorded since.
A package that was never recorded has the answer and the reports that it has on an empty cache: it is
found as soon as a rule settles it or something outside provides it. -/
theorem successes_stick_and_failures_do_not (context : Context) (capacity : Nat)
    (events : List Event) (call : Call) :
    let session := (start context capacity).run events
    let recorded := (start context capacity).recorded events
    let outcome := session.context.ask call session.cache
    (∀ earlier label since, recorded = earlier ++ (call.package, label) :: since →
        call.package ∉ since.map (·.1) → (since.map (·.1)).toFinset.card < capacity →
          session.context.LeavesOpen call.origin call.package → outcome.answer = some label) ∧
    (call.package ∉ recorded.map (·.1) →
      outcome.answer = (session.context.ask call (.ofCapacity capacity)).answer ∧
      outcome.diagnostics = (session.context.ask call (.ofCapacity capacity)).diagnostics ∧
      ∀ label, session.context.config.override? call.package = none →
        (session.context.ruleMatch call.origin call.package).label? = some label ∨
          session.context.LeavesOpen call.origin call.package ∧
            session.context.provider call.origin.language call.package = .label label →
        outcome.answer = some label) := by
  intro session recorded outcome
  have turned : (Cache.ofCapacity capacity).TurnsInto recorded session.cache :=
    (start context capacity).turnsInto_run (Cache.consistent_ofCapacity capacity) events
  constructor
  · intro earlier label since history unused room leftOpen
    rw [history] at turned
    have kept := turned.get_eq_some unused (room.trans_le (Nat.le_max_left capacity 1))
    rw [Context.answer_of_leavesOpen leftOpen, kept, Option.some_or]
  · intro unrecorded
    have missing := turned.get?_eq_none unrecorded
    obtain ⟨answer, diagnostics⟩ := session.context.ask_eq_of_missing missing capacity
    refine ⟨answer, diagnostics, ?_⟩
    intro label noOverride provided
    rw [answer, Context.answer_ofCapacity]
    rcases provided with settled | ⟨leftOpen, provided⟩
    · rw [Context.settle, noOverride, settled]
      rfl
    · rw [Context.settle_of_leavesOpen leftOpen, provided]
      rfl

end Session

end BuildDeps.Resolution

/-! ### Rules that come and go -/

namespace BuildDeps.Resolution.RulesChange

/-- The rule for a package, of the same name. -/
def ruleFor (package : String) : Label := ⟨"", package, package, false⟩

/-- There is a rule for each of some packages, and nothing else. -/
def context (packages : List String) : Context where
  config := {}
  rules := packages.foldl (fun index package => index.add .java ⟨package⟩ (ruleFor package)) .empty
  artifacts := .empty
  exports := none

def call (package : String) : Call where
  origin := { label := ⟨"", "app", "app", false⟩ }
  package := ⟨package⟩

def events : List Event :=
  [.ask (call "util"), .ask (call "later"), .ask (call "core"), .change (context ["later"])]

def session : Session :=
  (Session.start (context ["core", "util"]) 2).run events

/-- A package that was found is answered as before, although no rule declares it any more and another
package was found since, and the one that was not found is found now. -/
theorem found_is_kept_and_missing_is_found :
    ((context ["core", "util"]).ask (call "later") (.ofCapacity 2)).answer = none ∧
      (session.context.ask (call "util") (.ofCapacity 2)).answer = none ∧
      (session.context.ask (call "util") session.cache).answer = some (ruleFor "util") ∧
      (session.context.ask (call "later") session.cache).answer = some (ruleFor "later") := by
  have kept := (Session.successes_stick_and_failures_do_not (context ["core", "util"]) 2 events
    (call "util")).1 [] (ruleFor "util") [(⟨"core"⟩, ruleFor "core")] rfl (by simp [call])
      (by simp) ⟨rfl, rfl⟩
  have found := (Session.successes_stick_and_failures_do_not (context ["core", "util"]) 2 events
    (call "later")).2 (by decide)
  exact ⟨rfl, rfl, kept, found.2.2 (ruleFor "later") rfl (Or.inl rfl)⟩

end BuildDeps.Resolution.RulesChange
