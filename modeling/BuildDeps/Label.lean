import BuildDeps.Text.Fields

/-!
Build labels: `@repository//package:target`.

A label names a target by its repository, its package path and its own name.  A relative label
(`:target`) stands for the target of that name in whatever package it is written in; its repository
and package are then not part of what it says, and its text leaves them out.
-/

namespace BuildDeps

/-- A build label.  An empty repository is the current one. -/
structure Label where
  repository : String
  package : String
  target : String
  relative : Bool := false
deriving DecidableEq, Repr, Inhabited

namespace Label

/-- The text of a label, in its shortest form.

A target that bears the name of its package's last directory is left out, and so is everything but
the repository where the target bears the repository's name and stands in its top package. -/
def text (label : Label) : String :=
  if label.relative then
    ":" ++ label.target
  else if label.repository ≠ "" ∧ label.package = "" ∧ label.target = label.repository then
    "@" ++ label.repository
  else
    let repository := if label.repository = "" then "" else "@" ++ label.repository
    let target :=
      if label.package ≠ "" ∧ Text.lastField '/' label.package = label.target then ""
      else ":" ++ label.target
    repository ++ "//" ++ label.package ++ target

/-- The absolute label that a label stands for where it is written: a relative label belongs to
that repository and package, an absolute one is its own answer. -/
def absolute (label : Label) (repository package : String) : Label :=
  if label.relative then ⟨repository, package, label.target, false⟩ else label

/-- The shortest label for the same target as seen from the rule `origin`: relative inside the
origin's package, and without the repository elsewhere in the current repository. -/
def simplify (label : Label) (currentRepository : String) (origin : Label) : Label :=
  if label.repository = currentRepository ∨ label.repository = "" then
    if label.package = origin.package then { label with relative := true }
    else { label with repository := "" }
  else label

/-- The visibility of everything in the label's package. -/
def packageVisibility (label : Label) : Label :=
  ⟨"", label.package, "__pkg__", false⟩

/-- The visibility of every package of the repository. -/
def everywhere : Label :=
  ⟨"", "", "__subpackages__", false⟩

end Label

end BuildDeps
