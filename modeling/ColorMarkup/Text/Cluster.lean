import ColorMarkup.Text
import ColorMarkup.Unicode.ClusterBreak

/-!
# Clusters

A cluster is a run of scalars that a reader takes for one character: a letter with its marks, a
syllable block, a flag, pictures joined into one.  The rules are those of extended grapheme
clusters.  This file holds

* `Cluster.Context`, what the scalars of a cluster so far say about the next scalar;
* `Text.clusters`, the text cut into clusters.
-/

namespace ColorMarkup

open Unicode (ClusterBreak)

namespace Cluster

/-- How far a cluster has come in a chain of joined pictures. -/
inductive Picture where
  /-- The cluster does not end in a picture. -/
  | none
  /-- The cluster ends in a picture and its extensions. -/
  | shown
  /-- The cluster ends in a picture, its extensions and a joiner. -/
  | joined
  deriving DecidableEq, Repr

/-- How far a cluster has come in a chain of linked consonants. -/
inductive Conjunct where
  /-- The cluster does not end in a consonant. -/
  | none
  /-- The cluster ends in a consonant and its extensions, without a linker. -/
  | shown
  /-- The cluster ends in a consonant and its extensions, a linker among them. -/
  | linked
  deriving DecidableEq, Repr

/-- What the scalars of a cluster so far say about whether the next one belongs to it. -/
structure Context where
  /-- The class of the last scalar. -/
  last : ClusterBreak := .control
  picture : Picture := .none
  conjunct : Conjunct := .none
  /-- Whether the cluster ends in a regional indicator that has no partner yet. -/
  halfFlag : Bool := false

/-- The chain of pictures after one more scalar, of class `part`. -/
def Picture.next (picture : Picture) (part : ClusterBreak) : Picture :=
  match part, picture with
  | .pictograph, _ => .shown
  | .extend, .shown => .shown
  | .joiner, .shown => .joined
  | _, _ => .none

/-- The chain of consonants after the scalar `c`. -/
def Conjunct.next (conjunct : Conjunct) (c : Char) (part : ClusterBreak) : Conjunct :=
  if part = .consonant then .shown
  else if conjunct = .none then .none
  else if Unicode.isLinker c then .linked
  else if Unicode.isConjunctExtend c then conjunct
  else .none

/-- The context after the scalar `c`. -/
def Context.next (context : Context) (c : Char) : Context :=
  let part := ClusterBreak.of c
  { last := part
    picture := context.picture.next part
    conjunct := context.conjunct.next c part
    halfFlag := part = .regional && !(context.last = .regional && context.halfFlag) }

/-- Whether the scalar `c` belongs to the cluster that `context` describes. -/
def Context.joins (context : Context) (c : Char) : Bool :=
  match context.last, ClusterBreak.of c with
  -- controls stand alone, but for a carriage return with its line feed
  | .carriageReturn, .lineFeed => true
  | .carriageReturn, _ | .lineFeed, _ | .control, _ => false
  | _, .carriageReturn | _, .lineFeed | _, .control => false
  -- the parts of a Korean syllable
  | .leading, .leading | .leading, .vowel | .leading, .openSyllable | .leading, .closedSyllable
  | .openSyllable, .vowel | .openSyllable, .trailing | .vowel, .vowel | .vowel, .trailing
  | .closedSyllable, .trailing | .trailing, .trailing => true
  -- marks join what stands before them, prepended characters what follows
  | _, .extend | _, .joiner | _, .spacingMark => true
  | .prepend, _ => true
  -- linked consonants, joined pictures, the two halves of a flag
  | _, .consonant => context.conjunct = .linked
  | .joiner, .pictograph => context.picture = .joined
  | .regional, .regional => context.halfFlag
  | _, _ => false

end Cluster

namespace Text

open Cluster (Context)

/-- What remains of the cluster under way, and the clusters after it. -/
def clustersFrom (context : Context) : Text → Text × List Text
  | [] => ([], [])
  | c :: rest =>
    if context.joins c then
      let (own, later) := clustersFrom (context.next c) rest
      (c :: own, later)
    else
      let (own, later) := clustersFrom (Context.next {} c) rest
      ([], (c :: own) :: later)

/-- The text cut into clusters. -/
def clusters (text : Text) : List Text :=
  (clustersFrom {} text).2

end Text

end ColorMarkup
