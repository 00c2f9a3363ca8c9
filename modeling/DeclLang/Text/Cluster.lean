import DeclLang.Text.ClusterClass

/-!
# Clusters

A cluster is what a reader takes for one character: a letter with its marks, a syllable, a flag, a
joined picture, or a carriage return and the newline after it. The clusters of a text are the
extended grapheme clusters of Unicode. A text is read once from left to right, with the state of the
cluster at its end, which says what may still be attached.
-/

namespace DeclLang.Text

/-- What a cluster may be continued by, after its last character. -/
inductive ClusterState where
  /-- After a carriage return: a newline. -/
  | returned
  /-- After a newline or a control: nothing. -/
  | ended
  /-- After a sign that belongs to the next character: all but controls. -/
  | awaiting
  /-- After the leading consonant of a syllable. -/
  | syllableLead
  /-- After the vowel of a syllable. -/
  | syllableVowel
  /-- After the trailing consonant of a syllable. -/
  | syllableTail
  /-- After the first letter of a flag. -/
  | halfFlag
  /-- After a picture and what extends it, and perhaps a joiner. -/
  | picture (joined : Bool)
  /-- After a consonant and what extends it, perhaps with a linker. -/
  | conjunct (linked : Bool)
  /-- After anything else: what is attached to every character. -/
  | plain
deriving DecidableEq, Repr

namespace ClusterState

/-- The state after the first character of a cluster. -/
def start : ClusterClass → ClusterState
  | .carriageReturn => .returned
  | .newline | .control => .ended
  | .leading => .awaiting
  | .hangulLead => .syllableLead
  | .hangulVowel | .hangulOpen => .syllableVowel
  | .hangulTail | .hangulClosed => .syllableTail
  | .flagLetter => .halfFlag
  | .pictograph => .picture false
  | .consonant => .conjunct false
  | .extender | .linker | .joiner | .nonJoiner | .spacing | .other => .plain

/-- The state after one more character; none when it starts a cluster of its own. -/
def extend? : ClusterState → ClusterClass → Option ClusterState
  | .returned, .newline => some .ended
  | .returned, _ | .ended, _ => none
  | _, .carriageReturn | _, .newline | _, .control => none
  | .picture false, .extender | .picture false, .linker | .picture false, .nonJoiner =>
    some (.picture false)
  | .picture false, .joiner => some (.picture true)
  | .conjunct linked, .extender | .conjunct linked, .joiner => some (.conjunct linked)
  | .conjunct _, .linker => some (.conjunct true)
  | _, .extender | _, .linker | _, .joiner | _, .nonJoiner | _, .spacing => some .plain
  | .awaiting, next => some (start next)
  | .syllableLead, .hangulLead => some .syllableLead
  | .syllableLead, .hangulVowel | .syllableLead, .hangulOpen | .syllableVowel, .hangulVowel =>
    some .syllableVowel
  | .syllableLead, .hangulClosed | .syllableVowel, .hangulTail | .syllableTail, .hangulTail =>
    some .syllableTail
  | .halfFlag, .flagLetter => some .plain
  | .picture true, .pictograph => some (.picture false)
  | .conjunct true, .consonant => some (.conjunct false)
  | _, _ => none

end ClusterState

/-- What of a text continues a cluster in the given state, and the clusters after that. -/
def clustersAfter (state : ClusterState) : Text → Text × List Text
  | [] => ([], [])
  | c :: rest =>
    match state.extend? (.ofChar c) with
    | some state =>
      let (tail, others) := clustersAfter state rest
      (c :: tail, others)
    | none =>
      let (tail, others) := clustersAfter (.start (.ofChar c)) rest
      ([], (c :: tail) :: others)

/-- The clusters of a text. -/
def clusters : Text → List Text
  | [] => []
  | c :: rest =>
    let (tail, others) := clustersAfter (.start (.ofChar c)) rest
    (c :: tail) :: others

/-- What continues a cluster and the clusters after it make up the text. -/
theorem clustersAfter_append_flatten (state : ClusterState) (s : Text) :
    (clustersAfter state s).1 ++ (clustersAfter state s).2.flatten = s := by
  induction s generalizing state with
  | nil => rfl
  | cons c rest ih =>
    unfold clustersAfter
    split <;> simp [ih]

/-- The clusters of a text make it up. -/
theorem flatten_clusters (s : Text) : (clusters s).flatten = s := by
  cases s with
  | nil => rfl
  | cons c rest => simp [clusters, clustersAfter_append_flatten]

end DeclLang.Text
