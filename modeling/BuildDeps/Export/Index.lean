import BuildDeps.Export.DependencyGraph

/-!
Which export stands for which rules.

An export absorbs the labels that it reaches without passing through another export, and rules
outside depend on the export in their place.  Where several exports reach a label, the first claim
stands; exports claim in the order of their dependency counts, so that an export within another is
settled before the one around it.  A claim that comes too late is a conflict.
-/

namespace BuildDeps.Export

/-- An export that reached a label another export had absorbed. -/
structure Conflict where
  dependency : Label
  wanting : Label
  owning : Label
deriving DecidableEq, Repr, Inhabited

/-- By dependency, then by the export that came too late, then by the one that came first. -/
def Conflict.order : Conflict → Conflict → Ordering :=
  compareLex (compareOn dependency) <| compareLex (compareOn wanting) (compareOn owning)

instance : Ord Conflict := ⟨Conflict.order⟩

instance : Std.TransOrd Conflict :=
  inferInstanceAs (Std.TransCmp (compareLex (compareOn Conflict.dependency) <|
    compareLex (compareOn Conflict.wanting) (compareOn Conflict.owning)))

instance : Std.LawfulEqOrd Conflict where
  eq_of_compare := by
    intro left right equal
    have parts : Conflict.order left right = .eq := equal
    simp only [Conflict.order, compareLex_eq_eq, compareOn, Std.compare_eq_iff_eq] at parts
    cases left
    cases right
    simp_all

/-- An export and its place in the order of claims. -/
structure Ranked where
  count : Nat
  label : Label
deriving DecidableEq, Repr, Inhabited

/-- Fewer dependencies first, then by label. -/
def Ranked.order : Ranked → Ranked → Ordering :=
  compareLex (compareOn count) (compareOn label)

instance : Ord Ranked := ⟨Ranked.order⟩

instance : Std.TransOrd Ranked :=
  inferInstanceAs (Std.TransCmp (compareLex (compareOn Ranked.count) (compareOn Ranked.label)))

instance : Std.LawfulEqOrd Ranked where
  eq_of_compare := by
    intro left right equal
    have parts : Ranked.order left right = .eq := equal
    simp only [Ranked.order, compareLex_eq_eq, compareOn, Std.compare_eq_iff_eq] at parts
    cases left
    cases right
    simp_all

/-- The claims that stand so far. -/
structure Claims where
  /-- The export that absorbed a label. -/
  owners : Table Label Label
  /-- The packages that may see what an export absorbed, ascending. -/
  visibility : Table Label (List Label)
  /-- The claims that came too late, ascending. -/
  conflicts : List Conflict
  /-- What was asked about the graph. -/
  memo : Memo
deriving DecidableEq, Repr

namespace Claims

/-- No export has made its claims yet. -/
def start (memo : Memo) : Claims := ⟨Table.empty, Table.empty, [], memo⟩

/-- Shows what an export absorbed to the package of a label. -/
def share (claims : Claims) (exporter label : Label) : Claims :=
  { claims with
    visibility := claims.visibility.insert exporter
      (Ordered.insert label.packageVisibility ((claims.visibility.get? exporter).getD [])) }

/-- Notes that an export came too late for a label. -/
def reject (claims : Claims) (exporter label owner : Label) : Claims :=
  { claims with conflicts := Ordered.insert ⟨label, exporter, owner⟩ claims.conflicts }

/-- Gives a label to an export, and shows what the export absorbed to the package of the label. -/
def absorb (claims : Claims) (exporter label : Label) : Claims :=
  { claims with owners := claims.owners.insert label exporter }.share exporter label

/-- Makes the claims of one export on the labels in a queue and on what they lead to. -/
def claim (registry : Registry) (exporter : Label) (unseen queue : List Label)
    (claims : Claims) : Claims :=
  match queue with
  | [] => claims
  | label :: rest =>
    if registry.isExport label then claim registry exporter unseen rest claims
    else
      match claims.owners.get? label with
      | some owner => claim registry exporter unseen rest (claims.reject exporter label owner)
      | none =>
        let asked := claims.memo.dependenciesOf registry label
        let found := unseen.partition (asked.1.contains ·)
        claim registry exporter found.2 (rest ++ found.1)
          { claims.absorb exporter label with memo := asked.2 }
termination_by unseen.length + queue.length
decreasing_by
  · simp only [List.length_cons]
    omega
  · simp only [List.length_cons]
    omega
  · have := length_partition
      ((claims.memo.dependenciesOf registry label).1.contains ·) unseen
    simp only [List.length_cons, List.length_append]
    omega

/-- Makes all claims of one export, whose own package sees what it absorbs. -/
def settle (registry : Registry) (claims : Claims) (exporter : Label) : Claims :=
  let direct := (registry.exports.get? exporter).getD []
  let found := registry.targets.partition (direct.contains ·)
  claim registry exporter found.2 found.1 (claims.share exporter exporter)

end Claims

namespace Registry

/-- The exports in the order in which they claim, and what was asked about the graph for it. -/
def claimOrder (registry : Registry) : List Ranked × Memo :=
  (Ordered.ofList registry.exports.keys).foldl
    (fun (ranked, memo) label =>
      let (count, memo) := memo.countOf registry label
      (Ordered.insert ⟨count, label⟩ ranked, memo))
    ([], Memo.empty)

/-- The claims after all exports have made theirs. -/
def claims (registry : Registry) : Claims :=
  let (ranked, memo) := registry.claimOrder
  ranked.foldl (fun claims next => claims.settle registry next.label) (.start memo)

end Registry

/-- The settled state of all exports, which only answers questions. -/
structure Index where
  exports : Table Label (List Label)
  owners : Table Label Label
  visibility : Table Label (List Label)
  conflicts : List Conflict
deriving DecidableEq, Repr

/-- An export, with the labels it lists and the packages that may see what it absorbed. -/
structure Aggregate where
  label : Label
  dependencies : List Label
  visibility : List Label
deriving DecidableEq, Repr, Inhabited

/-- Settles all claims. -/
def Registry.finalize (registry : Registry) : Index :=
  let claims := registry.claims
  ⟨registry.exports, claims.owners, claims.visibility, claims.conflicts⟩

namespace Index

/-- There are no exports. -/
def empty : Index := ⟨Table.empty, Table.empty, Table.empty, []⟩

instance : Inhabited Index := ⟨empty⟩

/-- Whether a label is an export. -/
def isExport (index : Index) (label : Label) : Bool :=
  index.exports.contains label

/-- The label of the export that absorbed a label. -/
def owner? (index : Index) (label : Label) : Option Label :=
  index.owners.get? label

/-- Whether some export absorbed a label. -/
def isAbsorbed (index : Index) (label : Label) : Bool :=
  index.owners.contains label

/-- An export by its label. -/
def aggregate? (index : Index) (exporter : Label) : Option Aggregate :=
  (index.exports.get? exporter).map fun dependencies =>
    ⟨exporter, dependencies, (index.visibility.get? exporter).getD []⟩

/-- The export that absorbed a label. -/
def exportedBy (index : Index) (label : Label) : Option Aggregate :=
  (index.owner? label).bind index.aggregate?

/-- The visibility that a label is to get: an export is seen everywhere, what it absorbed is seen
within it, and nothing is said of other labels. -/
def visibility? (index : Index) (label : Label) : Option (List Label) :=
  if index.isExport label then some [Label.everywhere]
  else (index.exportedBy label).map (·.visibility)

/-- What there is to say about the conflicts. -/
def remarks (index : Index) : List Diagnostic :=
  index.conflicts.map fun conflict =>
    .exportConflict conflict.dependency conflict.wanting conflict.owning

end Index

end BuildDeps.Export
