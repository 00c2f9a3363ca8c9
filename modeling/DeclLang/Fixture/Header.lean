import DeclLang.Analysis.Phase
import DeclLang.Text.Blank

/-!
# Fixture headers

The first line of a fixture says how every phase is to end: the marker `// expect:` and then words
such as `lexical=PASS`. A phase that no word names is to be skipped, and of two words that name the
same phase the later one counts. Outcomes are read without regard to ASCII case, phases are not.
-/

namespace DeclLang

/-- How a phase is expected to end. -/
inductive Expectation where
  | pass
  | error
  | skip
deriving DecidableEq, Repr

namespace Expectation

/-- The word for an expectation. -/
def label : Expectation → String
  | pass => "PASS"
  | error => "ERROR"
  | skip => "SKIP"

/-- The expectation that a word stands for, in ASCII letters of any case. -/
def ofLabel? (word : Text) : Option Expectation :=
  [pass, error, skip].find? (·.label.toList == word.map Char.toUpper)

/-- Whether an outcome is as expected; the message of an error does not matter. -/
def accepts (expectation : Expectation) (outcome : Outcome) : Bool :=
  expectation.label == outcome.label

end Expectation

/-- Why a first line is no header. -/
inductive HeaderError where
  | missingMarker
  | noOutcome (word : Text)
  | unknownPhase (name : Text)
  | unknownOutcome (value name : Text)
deriving DecidableEq, Repr

namespace Header

/-- What a header starts with. -/
def marker : String := "// expect:"

/-- The key and the value of a word: what is before and after its first `=`. -/
def cutWord? (word : Text) : Option (Text × Text) :=
  if '=' ∈ word then
    some (word.takeWhile (· ≠ '='), (word.dropWhile (· ≠ '=')).drop 1)
  else
    none

/-- The expectations after one more word of a header. -/
def readWord (expected : PerPhase Expectation) (word : Text) :
    Except HeaderError (PerPhase Expectation) :=
  match cutWord? word with
  | none => .error (.noOutcome word)
  | some (key, value) =>
    match Phase.ofName? key with
    | none => .error (.unknownPhase key)
    | some phase =>
      match Expectation.ofLabel? value with
      | none => .error (.unknownOutcome value key)
      | some expectation => .ok (expected.set phase expectation)

/-- The first line of a source, trimmed. -/
def firstLine (source : Text) : Text := Text.trim (source.takeWhile (· ≠ '\n'))

/-- The expectations that the first line of a source states. -/
def parse (source : Text) : Except HeaderError (PerPhase Expectation) :=
  let line := firstLine source
  if marker.toList.isPrefixOf line then
    (Text.words (line.drop marker.length)).foldlM readWord (.replicate .skip)
  else
    .error .missingMarker

end Header

/-- The wording of an error. -/
def HeaderError.message : HeaderError → String
  | .missingMarker => "first line must start with \x60" ++ Header.marker ++ "\x60"
  | .noOutcome word => "expected \x60phase=OUTCOME\x60, found \x60" ++ String.ofList word ++ "\x60"
  | .unknownPhase name => "unknown phase \x60" ++ String.ofList name ++ "\x60"
  | .unknownOutcome value name =>
    "unknown outcome \x60" ++ String.ofList value ++ "\x60 for phase \x60" ++ String.ofList name
      ++ "\x60"

end DeclLang
