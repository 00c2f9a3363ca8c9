import DeclLang.Segment
import DeclLang.Text.Location
import DeclLang.Token.Basic
import DeclLang.Token.Production

/-!
# The lexical phase

`lex` first marks the trivia of a source and then reads tokens at the characters that are not
marked, each by the first production that matches something there. It stops at the first character
that no production matches, and at a character literal that holds anything but one character; the
error is located at that character.

`lexOnePass` is the same phase as a single walk that decides at every character whether a blank, a
comment or a token starts there.
-/

namespace DeclLang

/-- Why no token can be read at a character. -/
inductive LexicalError.Cause where
  | badCharLiteral (lexeme : Text)
  | unterminatedString
  | unterminatedChar
  | unterminatedComment
  | invalidCharacter (c : Char)
deriving DecidableEq, Repr

/-- The wording of a cause. -/
def LexicalError.Cause.message : LexicalError.Cause → String
  | .badCharLiteral lexeme =>
    "invalid character literal " ++ String.ofList lexeme
      ++ ": character literals may hold only one character"
  | .unterminatedString => "unterminated string literal"
  | .unterminatedChar => "unterminated character literal"
  | .unterminatedComment => "unterminated block comment"
  | .invalidCharacter c => "invalid character '" ++ String.singleton c ++ "'"

/-- A source text that cannot be cut into tokens, and where. -/
structure LexicalError where
  cause : LexicalError.Cause
  location : Location
deriving DecidableEq, Repr

namespace LexicalError

/-- The wording of an error without its place. -/
def message (e : LexicalError) : String := e.cause.message

/-- The wording of an error with its place. -/
def describe (e : LexicalError) : String :=
  "Lexical error at line " ++ toString e.location.line ++ ", column "
    ++ toString e.location.column ++ ": " ++ e.message

/-- Why no production matches anything at the front of a text. -/
def Cause.unmatched : Text → Cause
  | '/' :: '*' :: _ => .unterminatedComment
  | '"' :: _ => .unterminatedString
  | '\'' :: _ => .unterminatedChar
  | c :: _ => .invalidCharacter c
  | [] => .invalidCharacter '\x00'

end LexicalError

namespace Token

/-- The kind of a lexeme that a production matched; only a character literal may be refused. -/
def classify (production : Production) (lexeme : Text) : Except LexicalError.Cause Kind :=
  match production with
  | .stringLiteral => .ok .string
  | .charLiteral =>
    if Quoted.isSingle (Quoted.content lexeme) then .ok .char else .error (.badCharLiteral lexeme)
  | .floatWithSuffix | .floatPlain | .integerWithSuffix | .integerPlain => .ok .number
  | .word =>
    .ok (if Word.isBoolean lexeme then .boolean
      else if Word.isReserved lexeme then .keyword
      else .identifier)
  | .symbol => .ok (if lexeme = ['='] then .operator else .punctuation)

/-- The token at the front of a text that starts at the given byte offset. -/
def read (offset : Nat) (s : Text) : Except LexicalError.Cause Token :=
  match Production.first? s with
  | none => .error (.unmatched s)
  | some (production, lexeme) =>
    match classify production lexeme with
    | .error cause => .error cause
    | .ok kind => .ok ⟨kind, lexeme, offset, offset + Text.byteSize lexeme⟩

/-- A token is a front of the text it is read from, and its span starts there. -/
theorem read_eq_ok {offset : Nat} {s : Text} {t : Token} (h : read offset s = .ok t) :
    Text.IsFront t.lexeme s ∧ t.start = offset ∧ t.stop = offset + Text.byteSize t.lexeme := by
  unfold read at h
  split at h
  · simp at h
  · rename_i production lexeme hfirst
    split at h
    · simp at h
    · cases h
      exact ⟨Production.first?_isFront hfirst, rfl, rfl⟩

/-- The tokens of a text that starts at the given byte offset, where trivia is marked by one flag
per character; an error comes with its offset. -/
def scan (offset : Nat) : Text → List Bool → Except (LexicalError.Cause × Nat) (List Token)
  | [], _ => .ok []
  | c :: rest, true :: flags => scan (offset + c.utf8Size) rest flags
  | c :: rest, flags =>
    match read offset (c :: rest) with
    | .error cause => .error (cause, offset)
    | .ok token =>
      (scan token.stop (rest.drop (token.lexeme.length - 1)) (flags.drop token.lexeme.length)).map
        (token :: ·)
termination_by s => s.length
decreasing_by
  · simp
  · simp only [List.length_drop, List.length_cons]
    omega

/-- The tokens of a text that starts at the given byte offset, found in a single walk; an error
comes with its offset. -/
def walk (offset : Nat) : Text → Except (LexicalError.Cause × Nat) (List Token)
  | [] => .ok []
  | c :: rest =>
    if Text.isBlank c then walk (offset + c.utf8Size) rest
    else
      match Comment.front? (c :: rest) with
      | some comment =>
        walk (offset + Text.byteSize comment) (rest.drop (comment.length - 1))
      | none =>
        match read offset (c :: rest) with
        | .error cause => .error (cause, offset)
        | .ok token =>
          (walk token.stop (rest.drop (token.lexeme.length - 1))).map (token :: ·)
termination_by s => s.length
decreasing_by
  · simp
  all_goals
    simp only [List.length_drop, List.length_cons]
    omega

end Token

/-- An error in a source text at a byte offset. -/
def LexicalError.locate (source : Text) (fault : LexicalError.Cause × Nat) : LexicalError :=
  ⟨fault.1, Location.atOffset source fault.2⟩

/-- The tokens of a source text. -/
def lex (source : Text) : Except LexicalError (List Token) :=
  (Token.scan 0 source (Segment.triviaFlags source)).mapError (LexicalError.locate source)

/-- The tokens of a source text, read in a single walk. -/
def lexOnePass (source : Text) : Except LexicalError (List Token) :=
  (Token.walk 0 source).mapError (LexicalError.locate source)

end DeclLang
