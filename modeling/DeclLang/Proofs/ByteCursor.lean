import DeclLang.Proofs.TokenTiling
import Mathlib.Logic.Function.Iterate

/-!
# The lexical phase over byte offsets

A cursor goes through the bytes of a source twice, first marking trivia and then reading tokens. It
knows its place only as a byte offset, and cutting the source at an offset inside a character, or
looking at a mark past the end, would be a fault. Started on any source the cursor halts
after at most one step for each byte and phase, without a fault and with the answer of `lex`.
-/

namespace DeclLang

namespace Text

/-- The text from a byte offset on, unless the offset is no character boundary. -/
def from? (s : Text) (offset : Nat) : Option Text :=
  if isBoundary s offset then some (dropBytes s offset) else none

/-- The byte offset of the first place in a text where a pattern begins. -/
def find? (pattern : Text) : Text → Option Nat
  | [] => if pattern = [] then some 0 else none
  | c :: rest =>
    if pattern.isPrefixOf (c :: rest) then some 0 else (find? pattern rest).map (c.utf8Size + ·)

/-- A text can be cut at the end of a first part. -/
theorem from?_append (a b : Text) : from? (a ++ b) (byteSize a) = some b := by
  rw [from?, if_pos (isBoundary_append a b), dropBytes_append]

/-- Where a pattern does not begin it is looked for behind the first character. -/
theorem find?_cons {pattern rest : Text} {c : Char} (h : ¬ pattern <+: c :: rest) :
    find? pattern (c :: rest) = (find? pattern rest).map (c.utf8Size + ·) := by
  rw [← List.isPrefixOf_iff_prefix] at h
  rw [find?, if_neg h]

/-- The first newline lies behind the characters before it. -/
theorem getD_find?_newline (s : Text) :
    (find? ['\n'] s).getD (byteSize s) = byteSize (s.takeWhile (· ≠ '\n')) := by
  induction s with
  | nil => rfl
  | cons c rest ih =>
    by_cases hc : c = '\n'
    · simp [find?, hc]
    · have hprefix : ¬ ['\n'] <+: c :: rest := by simpa using Ne.symm hc
      rw [find?_cons hprefix, List.takeWhile_cons_of_pos (by simpa using hc), byteSize_cons,
        byteSize_cons, ← ih]
      cases find? ['\n'] rest <;> simp

/-- The first closing mark is the one that closes a block comment. -/
theorem map_find?_close (s : Text) :
    (find? ['*', '/'] s).map (· + 2) = (Comment.throughClose? s).map byteSize := by
  fun_induction Comment.throughClose? s with
  | case1 => rfl
  | case2 rest => rfl
  | case3 c rest hopen ih =>
    have hprefix : ¬ ['*', '/'] <+: c :: rest := by
      rintro ⟨tail, htail⟩
      obtain ⟨rfl, rfl⟩ := List.cons.inj htail
      exact hopen tail rfl rfl
    have hlater := congrArg (Option.map (c.utf8Size + ·)) ih
    simp only [Option.map_map, Function.comp_def] at hlater
    simpa only [find?_cons hprefix, Option.map_map, Function.comp_def, byteSize_cons,
      Nat.add_assoc] using hlater

end Text

namespace Quoted

/-- The byte offset behind the quote that closes a literal, when the text behind the opening quote
starts at the given offset. -/
def closeFrom? (quote : Char) (offset : Nat) : Text → Option Nat
  | [] => none
  | ['\\'] => none
  | '\\' :: c :: rest => closeFrom? quote (offset + 1 + c.utf8Size) rest
  | c :: rest =>
    if c = '\n' then none
    else if c = quote then some (offset + 1)
    else closeFrom? quote (offset + c.utf8Size) rest

/-- The offset is that of the end of what is stepped over. -/
theorem closeFrom?_eq {quote : Char} (hquote : quote.utf8Size = 1) (offset : Nat) (s : Text) :
    closeFrom? quote offset s = (closing? quote s).map (offset + Text.byteSize ·) := by
  have hslash : ('\\' : Char).utf8Size = 1 := rfl
  fun_induction closeFrom? quote offset s with
  | case1 | case2 => rfl
  | case3 offset c rest ih =>
    rw [ih, closing?]
    simp [Function.comp_def, hslash, Nat.add_assoc]
  | case4 offset rest hlone hpair =>
    rw [closing?_cons (by decide)]
    rfl
  | case5 offset rest hlone hpair hnewline =>
    rw [closing?_cons (ne_backslash hlone hpair), if_neg hnewline, if_pos rfl]
    simp [hquote]
  | case6 offset c rest hlone hpair hnewline hne ih =>
    rw [closing?_cons (ne_backslash hlone hpair), if_neg hnewline, if_neg hne, ih]
    simp [Function.comp_def, Nat.add_assoc]

end Quoted

/-- Where the lexical phase stands: marking trivia, reading tokens, halted, or at fault. -/
inductive ByteCursor where
  | marking (pos : Nat) (ignored : List Bool)
  | scanning (pos : Nat) (ignored : List Bool) (tokens : List Token)
  | halted (answer : Except LexicalError (List Token))
  | fault

namespace ByteCursor

/-- The marks with a range of bytes set, unless the range is out of order or past the end. -/
def mark? (ignored : List Bool) (start stop : Nat) : Option (List Bool) :=
  if start ≤ stop ∧ stop ≤ ignored.length then
    some (ignored.take start ++ List.replicate (stop - start) true ++ ignored.drop stop)
  else
    none

/-- Mark a range of bytes and go on behind it. -/
def markThrough? (pos stop : Nat) (ignored : List Bool) : Option ByteCursor :=
  (mark? ignored pos stop).map (marking stop)

/-- One step of marking: over a literal, a comment, a blank or any other character. -/
def markStep? (source : Text) (pos : Nat) (ignored : List Bool) : Option ByteCursor := do
  match ← source.from? pos with
  | [] => some (scanning 0 ignored [])
  | c :: rest =>
    if c = '"' ∨ c = '\'' then
      let behind ← source.from? (pos + 1)
      some (marking ((Quoted.closeFrom? c (pos + 1) behind).getD (pos + c.utf8Size)) ignored)
    else if ['/', '/'].isPrefixOf (c :: rest) then
      let newline := Text.find? ['\n'] (c :: rest)
      markThrough? pos ((newline.map (pos + ·)).getD source.byteSize) ignored
    else if ['/', '*'].isPrefixOf (c :: rest) then
      match Text.find? ['*', '/'] (← Text.from? (c :: rest) 2) with
      | some close => markThrough? pos (pos + 2 + close + 2) ignored
      | none => some (marking (pos + 1) ignored)
    else if Text.isBlank c then markThrough? pos (pos + c.utf8Size) ignored
    else some (marking (pos + c.utf8Size) ignored)

/-- The kind of a lexeme, where the content of a character literal is cut out by byte offsets. -/
def classify? (production : Production) (lexeme : Text) :
    Option (Except LexicalError.Cause Token.Kind) :=
  match production with
  | .charLiteral => do
    let content ← lexeme.slice? 1 (lexeme.byteSize - 1)
    some (if Quoted.isSingle content then .ok .char else .error (.badCharLiteral lexeme))
  | _ => some (Token.classify production lexeme)

/-- Halt with an error at a byte offset. -/
def fail? (source : Text) (pos : Nat) (cause : LexicalError.Cause) : Option ByteCursor :=
  (Location.ofOffset? source pos).map fun location => halted (.error ⟨cause, location⟩)

/-- One step of scanning: over a marked byte or a token. -/
def scanStep? (source : Text) (pos : Nat) (ignored : List Bool) (tokens : List Token) :
    Option ByteCursor := do
  if pos < source.byteSize then
    if ← ignored[pos]? then some (scanning (pos + 1) ignored tokens)
    else
      let rest ← source.from? pos
      match Production.first? rest with
      | none => fail? source pos (.unmatched rest)
      | some (production, w) =>
        let stop := pos + w.byteSize
        let lexeme ← source.slice? pos stop
        match ← classify? production lexeme with
        | .error cause => fail? source pos cause
        | .ok kind => some (scanning stop ignored (tokens ++ [⟨kind, lexeme, pos, stop⟩]))
  else some (halted (.ok tokens))

/-- One step of the lexical phase. -/
def step (source : Text) : ByteCursor → ByteCursor
  | marking pos ignored => (markStep? source pos ignored).getD fault
  | scanning pos ignored tokens => (scanStep? source pos ignored tokens).getD fault
  | halted answer => halted answer
  | fault => fault

/-- The start of the lexical phase: nothing is marked. -/
def start (source : Text) : ByteCursor := marking 0 (List.replicate source.byteSize false)

/-- Marking a stretch that is not marked yet sets just its marks. -/
theorem markThrough?_append {flags : List Bool} {pos : Nat} (hpos : flags.length = pos)
    (w rest : Text) :
    markThrough? pos (pos + w.byteSize) (flags ++ List.replicate (w ++ rest).byteSize false) =
      some (marking (pos + w.byteSize)
        (flags ++ List.replicate w.byteSize true ++ List.replicate rest.byteSize false)) := by
  subst hpos
  have hbound : flags.length ≤ flags.length + w.byteSize ∧ flags.length + w.byteSize ≤
      (flags ++ List.replicate (w ++ rest).byteSize false).length := by
    simp only [List.length_append, List.length_replicate, Text.byteSize_append]
    omega
  rw [markThrough?, mark?, if_pos hbound]
  simp [List.drop_append]

/-- The cursor behind a segment whose bytes have got their marks, in front of unmarked bytes. -/
def behind (pos : Nat) (flags : List Bool) (y : Segment) (tail : Text) : ByteCursor :=
  marking (pos + y.text.byteSize)
    (flags ++ List.replicate y.text.byteSize y.isTrivia ++ List.replicate tail.byteSize false)

/-- Marking trivia goes behind its segment. -/
theorem markThrough?_eq_behind {flags : List Bool} {pos stop : Nat} (hpos : flags.length = pos)
    {y : Segment} (hy : y.isTrivia = true) (hstop : stop = pos + y.text.byteSize) (tail : Text) :
    markThrough? pos stop (flags ++ List.replicate (y.text ++ tail).byteSize false) =
      some (behind pos flags y tail) := by
  rw [hstop, markThrough?_append hpos, behind, hy]

/-- Leaving the marks of other segments unset goes behind them. -/
theorem marking_eq_behind (flags : List Bool) {pos stop : Nat} {y : Segment}
    (hy : y.isTrivia = false) (hstop : stop = pos + y.text.byteSize) (tail : Text) :
    marking stop (flags ++ List.replicate (y.text ++ tail).byteSize false) =
      behind pos flags y tail := by
  rw [hstop, behind, hy, Text.byteSize_append, ← List.replicate_append_replicate, List.append_assoc]

/-- A step of marking goes over the segment at the front of the text that is left. -/
def MarksFront (source pre : Text) (flags : List Bool) (c : Char) (rest : Text) : Prop :=
  ∃ tail, c :: rest = (Segment.front c rest).text ++ tail ∧
    markStep? source pre.byteSize (flags ++ List.replicate (Text.byteSize (c :: rest)) false) =
      some (behind pre.byteSize flags (Segment.front c rest) tail)

section MarkStep

variable {source pre rest : Text} {flags : List Bool}

/-- At a quote a step of marking goes over the literal, or over the quote alone. -/
theorem marksFront_quote {c : Char} (hsource : source = pre ++ (c :: rest))
    (hquote : c = '"' ∨ c = '\'') :
    MarksFront source pre flags c rest := by
  have hsize : c.utf8Size = 1 := by rcases hquote with rfl | rfl <;> rfl
  have hfrom : source.from? pre.byteSize = some (c :: rest) := by
    rw [hsource, Text.from?_append]
  have hbehind : source.from? (pre.byteSize + 1) = some rest := by
    have := Text.from?_append (pre ++ [c]) rest
    simpa [hsource, hsize] using this
  rw [MarksFront, markStep?, hfrom]
  simp only [Option.bind_eq_bind, Option.bind_some, if_pos hquote, hbehind,
    Quoted.closeFrom?_eq hsize, Segment.front]
  cases hclosing : Quoted.closing? c rest with
  | none =>
    refine ⟨rest, rfl, ?_⟩
    exact congrArg some (marking_eq_behind flags (y := ⟨.plain, [c]⟩) rfl rfl rest)
  | some u =>
    obtain ⟨tail, rfl⟩ := Quoted.closing?_isPrefix hclosing
    refine ⟨tail, rfl, ?_⟩
    refine congrArg some (marking_eq_behind flags (y := ⟨.literal, c :: u⟩) rfl ?_ tail)
    simp [hsize, Nat.add_assoc]

/-- At a line comment a step of marking goes over it. -/
theorem marksFront_line (hsource : source = pre ++ ('/' :: '/' :: rest))
    (hflags : flags.length = pre.byteSize) :
    MarksFront source pre flags '/' ('/' :: rest) := by
  have hfrom : source.from? pre.byteSize = some ('/' :: '/' :: rest) := by
    rw [hsource, Text.from?_append]
  have hfront : Segment.front '/' ('/' :: rest) =
      ⟨.comment, '/' :: '/' :: rest.takeWhile (· ≠ '\n')⟩ := rfl
  have hparts : '/' :: '/' :: rest =
      '/' :: '/' :: rest.takeWhile (· ≠ '\n') ++ rest.dropWhile (· ≠ '\n') := by
    simp [List.takeWhile_append_dropWhile]
  have hsize : source.byteSize = pre.byteSize + Text.byteSize ('/' :: '/' :: rest) := by
    rw [hsource, Text.byteSize_append]
  have hstop : ((Text.find? ['\n'] ('/' :: '/' :: rest)).map (pre.byteSize + ·)).getD
      source.byteSize =
        pre.byteSize + Text.byteSize ('/' :: '/' :: rest.takeWhile (· ≠ '\n')) := by
    rw [hsize, Option.getD_map, Text.getD_find?_newline]
    simp
  have hmark := markThrough?_eq_behind hflags
    (y := ⟨.comment, '/' :: '/' :: rest.takeWhile (· ≠ '\n')⟩) rfl hstop
    (rest.dropWhile (· ≠ '\n'))
  rw [← hparts] at hmark
  rw [MarksFront, hfront]
  refine ⟨_, hparts, ?_⟩
  rw [markStep?, hfrom]
  exact hmark

/-- At an opening mark a step of marking goes over the block comment, or over the slash alone. -/
theorem marksFront_block (hsource : source = pre ++ ('/' :: '*' :: rest))
    (hflags : flags.length = pre.byteSize) :
    MarksFront source pre flags '/' ('*' :: rest) := by
  have hfrom : source.from? pre.byteSize = some ('/' :: '*' :: rest) := by
    rw [hsource, Text.from?_append]
  have hinside : Text.from? ('/' :: '*' :: rest) 2 = some rest := Text.from?_append ['/', '*'] rest
  have hclose := Text.map_find?_close rest
  have hstep : markStep? source pre.byteSize
      (flags ++ List.replicate (Text.byteSize ('/' :: '*' :: rest)) false) =
        match Text.find? ['*', '/'] rest with
        | some close => markThrough? pre.byteSize (pre.byteSize + 2 + close + 2)
            (flags ++ List.replicate (Text.byteSize ('/' :: '*' :: rest)) false)
        | none => some (marking (pre.byteSize + 1)
            (flags ++ List.replicate (Text.byteSize ('/' :: '*' :: rest)) false)) := by
    rw [markStep?, hfrom]
    simp only [Option.bind_eq_bind, Option.bind_some, hinside]
    rfl
  cases hthrough : Comment.throughClose? rest with
  | none =>
    have hnone : Text.find? ['*', '/'] rest = none := by simpa [hthrough] using hclose
    have hfront : Segment.front '/' ('*' :: rest) = ⟨.plain, ['/']⟩ := by
      simp [Segment.front, Comment.front?, hthrough, show Text.isBlank '/' = false by decide]
    rw [MarksFront, hfront, hstep, hnone]
    exact ⟨_, rfl, congrArg some (marking_eq_behind flags (y := ⟨.plain, ['/']⟩) rfl rfl _)⟩
  | some u =>
    obtain ⟨close, hfind, hsize⟩ : ∃ close, Text.find? ['*', '/'] rest = some close ∧
        close + 2 = u.byteSize := by simpa [hthrough] using hclose
    obtain ⟨tail, rfl⟩ := Comment.throughClose?_isPrefix hthrough
    have hfront : Segment.front '/' ('*' :: (u ++ tail)) = ⟨.comment, '/' :: '*' :: u⟩ := by
      simp [Segment.front, Comment.front?, hthrough]
    have hstop : pre.byteSize + 2 + close + 2 =
        pre.byteSize + Text.byteSize ('/' :: '*' :: u) := by
      have hslash : ('/' : Char).utf8Size = 1 := rfl
      have hstar : ('*' : Char).utf8Size = 1 := rfl
      simp only [Text.byteSize_cons]
      omega
    rw [MarksFront, hfront, hstep, hfind]
    exact ⟨tail, rfl,
      markThrough?_eq_behind hflags (y := ⟨.comment, '/' :: '*' :: u⟩) rfl hstop tail⟩

/-- At any other character a step of marking goes over it, and marks it if it is blank. -/
theorem marksFront_other {c : Char} (hsource : source = pre ++ (c :: rest))
    (hflags : flags.length = pre.byteSize) (hquote : ¬ (c = '"' ∨ c = '\''))
    (hline : ¬ ['/', '/'] <+: c :: rest) (hblock : ¬ ['/', '*'] <+: c :: rest) :
    MarksFront source pre flags c rest := by
  have hfrom : source.from? pre.byteSize = some (c :: rest) := by
    rw [hsource, Text.from?_append]
  have hcomment : Comment.front? (c :: rest) = none := by
    unfold Comment.front?
    split
    · simp_all
    · simp_all
    · rfl
  rw [← List.isPrefixOf_iff_prefix] at hline hblock
  rw [MarksFront, markStep?, hfrom]
  simp only [Option.bind_eq_bind, Option.bind_some, if_neg hquote, if_neg hline, if_neg hblock,
    Segment.front, hcomment]
  by_cases hblank : Text.isBlank c
  · simp only [if_pos hblank]
    exact ⟨rest, rfl, markThrough?_eq_behind hflags (y := ⟨.blank, [c]⟩) rfl rfl rest⟩
  · simp only [if_neg hblank]
    exact ⟨rest, rfl, congrArg some (marking_eq_behind flags (y := ⟨.plain, [c]⟩) rfl rfl rest)⟩

/-- Whatever the first character is, a step of marking goes over the segment there. -/
theorem marksFront {c : Char} (hsource : source = pre ++ (c :: rest))
    (hflags : flags.length = pre.byteSize) :
    MarksFront source pre flags c rest := by
  by_cases hquote : c = '"' ∨ c = '\''
  · exact marksFront_quote hsource hquote
  · by_cases hline : ['/', '/'] <+: c :: rest
    · obtain ⟨u, hu⟩ := hline
      obtain ⟨rfl, rfl⟩ := List.cons.inj hu
      exact marksFront_line hsource hflags
    · by_cases hblock : ['/', '*'] <+: c :: rest
      · obtain ⟨u, hu⟩ := hblock
        obtain ⟨rfl, rfl⟩ := List.cons.inj hu
        exact marksFront_block hsource hflags
      · exact marksFront_other hsource hflags hquote hline hblock

end MarkStep

/-- The marks of a text are those of its first segment and those of what follows. -/
theorem triviaBytes_cons {c : Char} {rest tail : Text}
    (htail : c :: rest = (Segment.front c rest).text ++ tail) :
    Segment.triviaBytes (c :: rest) =
      List.replicate (Segment.front c rest).text.byteSize (Segment.front c rest).isTrivia ++
        Segment.triviaBytes tail := by
  obtain ⟨d, u, hu⟩ := List.exists_cons_of_ne_nil (Segment.front_isFront c rest).2
  have hdrop : rest.drop ((Segment.front c rest).text.length - 1) = tail := by
    rw [hu, List.cons_append] at htail
    obtain ⟨-, rfl⟩ := List.cons.inj htail
    simp [hu]
  rw [Segment.triviaBytes, Segment.split, hdrop]
  rfl

/-- Marking goes over all segments that are left, with at least one byte for each step. -/
theorem exists_iterate_marking {source s : Text} (pre : Text) (flags : List Bool)
    (hsource : source = pre ++ s) (hflags : flags.length = pre.byteSize) :
    ∃ n ≤ s.byteSize + 1,
      (step source)^[n] (marking pre.byteSize (flags ++ List.replicate s.byteSize false)) =
        scanning 0 (flags ++ Segment.triviaBytes s) [] := by
  induction hlength : s.length using Nat.strong_induction_on generalizing s pre flags with
  | _ n ih =>
    cases s with
    | nil =>
      have hfrom : source.from? pre.byteSize = some [] := by rw [hsource, Text.from?_append]
      refine ⟨1, by simp, ?_⟩
      simp [step, markStep?, hfrom, Segment.triviaBytes, Segment.split]
    | cons c rest =>
      obtain ⟨tail, htail, hstep⟩ := marksFront hsource hflags
      have hfront := (Segment.front_isFront c rest).2
      have hmarks := triviaBytes_cons htail
      rw [htail] at hlength
      generalize Segment.front c rest = y at *
      have hshorter : tail.length < n := by
        have := List.length_pos_iff.2 hfront
        rw [← hlength, List.length_append]
        omega
      have hsource' : source = (pre ++ y.text) ++ tail := by rw [hsource, htail, List.append_assoc]
      obtain ⟨m, hm, hrun⟩ := ih tail.length hshorter (pre ++ y.text)
        (flags ++ List.replicate y.text.byteSize y.isTrivia) hsource' (by simp [hflags]) rfl
      have hsize := congrArg Text.byteSize htail
      have hpos := Text.byteSize_pos hfront
      rw [Text.byteSize_append] at hsize
      refine ⟨m + 1, by omega, ?_⟩
      rw [Function.iterate_succ_apply, step, hstep, Option.getD_some, behind,
        ← Text.byteSize_append, hrun, hmarks, List.append_assoc]

/-- Scanning goes over marked bytes one by one. -/
theorem iterate_scanning_marked {source : Text} {ignored : List Bool} {pos : Nat} (n : Nat)
    (hmarked : ∀ i < n, ignored[pos + i]? = some true) (hend : pos + n ≤ source.byteSize)
    (tokens : List Token) :
    (step source)^[n] (scanning pos ignored tokens) = scanning (pos + n) ignored tokens := by
  induction n generalizing pos with
  | zero => rfl
  | succ n ih =>
    have hfirst : ignored[pos]? = some true := hmarked 0 (Nat.succ_pos n)
    have hstep : step source (scanning pos ignored tokens) = scanning (pos + 1) ignored tokens := by
      simp [step, scanStep?, hfirst, show pos < source.byteSize by omega]
    rw [Function.iterate_succ_apply, hstep, ih _ (by omega)]
    · rw [Nat.add_assoc, Nat.add_comm 1 n]
    · intro i hi
      rw [Nat.add_assoc, Nat.add_comm 1 i]
      exact hmarked (i + 1) (by omega)

/-- Cutting the content of a character literal by byte offsets finds it. -/
theorem classify?_eq {s w : Text} {production : Production}
    (h : Production.first? s = some (production, w)) :
    classify? production w = some (Token.classify production w) := by
  cases production with
  | charLiteral =>
    obtain ⟨hfront, -⟩ | ⟨-, hfront⟩ | hnumber | ⟨hword, -⟩ | ⟨hsymbol, -⟩ :=
      Production.first?_eq_some_iff.1 h
    · contradiction
    · obtain ⟨u, rfl, htail⟩ := Quoted.front?_eq_some (by decide) hfront
      obtain ⟨body, rfl, -⟩ := Quoted.tail?_eq_append htail
      have hquote : ('\'' : Char).utf8Size = 1 := rfl
      have hslice := Text.slice?_append ['\''] body ['\'']
      have hstop : Text.byteSize ('\'' :: (body ++ ['\''])) - 1 =
          Text.byteSize ['\''] + body.byteSize := by
        simp only [Text.byteSize_cons, Text.byteSize_append, Text.byteSize_nil, hquote]
        omega
      have hcontent : Text.slice? ('\'' :: (body ++ ['\''])) 1
          (Text.byteSize ('\'' :: (body ++ ['\''])) - 1) = some body := by
        rw [hstop]
        exact hslice
      simp only [classify?, hcontent, Option.bind_eq_bind, Option.bind_some]
      simp [Token.classify, Quoted.content]
    · obtain ⟨-, hproduction, -, -⟩ := Number.first?_eq_some hnumber
      unfold Number.production at hproduction
      split_ifs at hproduction
    · contradiction
    · contradiction
  | _ => rfl

/-- An error at the end of a first part of the source is located there. -/
theorem fail?_eq {source pre rest : Text} (hsource : source = pre ++ rest)
    (cause : LexicalError.Cause) :
    fail? source pre.byteSize cause =
      some (halted (.error (LexicalError.locate source (cause, pre.byteSize)))) := by
  have hmin : min pre.byteSize source.byteSize = pre.byteSize := by
    rw [hsource, Text.byteSize_append]
    omega
  have hboundary : source.isBoundary pre.byteSize = true := by
    rw [hsource, Text.isBoundary_append]
  rw [fail?, Location.ofOffset?, hmin, if_pos hboundary]
  rfl

/-- Scanning at an unmarked character reads the token there, or halts with the error. -/
theorem step_scanning_unmarked {source pre rest : Text} {ignored : List Bool}
    (hsource : source = pre ++ rest) (hrest : rest ≠ [])
    (hunmarked : ignored[pre.byteSize]? = some false) (tokens : List Token) :
    step source (scanning pre.byteSize ignored tokens) =
      match Token.read pre.byteSize rest with
      | .ok t => scanning t.stop ignored (tokens ++ [t])
      | .error cause => halted (.error (LexicalError.locate source (cause, pre.byteSize))) := by
  have hinside : pre.byteSize < source.byteSize := by
    have := Text.byteSize_pos hrest
    rw [hsource, Text.byteSize_append]
    omega
  have hfrom : source.from? pre.byteSize = some rest := by rw [hsource, Text.from?_append]
  rw [step, scanStep?, if_pos hinside, hunmarked]
  simp only [Option.bind_eq_bind, Option.bind_some, Bool.false_eq_true, if_false, hfrom]
  rw [Token.read]
  cases hfirst : Production.first? rest with
  | none => simp [fail?_eq hsource]
  | some found =>
    obtain ⟨production, w⟩ := found
    obtain ⟨⟨tail, rfl⟩, -⟩ := Production.first?_isFront hfirst
    have hslice : source.slice? pre.byteSize (pre.byteSize + w.byteSize) = some w := by
      rw [hsource, Text.slice?_append]
    simp only [hslice, classify?_eq hfirst, Option.bind_some]
    cases Token.classify production w with
    | error cause => simp [fail?_eq hsource]
    | ok kind => simp

/-- Scanning goes over a stretch and keeps its token, with at least one byte for each step. -/
theorem exists_iterate_stretch {x : Stretch} {source pre rest : Text} {flags : List Bool}
    (hx : x.IsRead rest) (hsource : source = pre ++ (x.text ++ rest))
    (hflags : flags.length = pre.byteSize) (tokens : List Token) :
    ∃ n ≤ x.text.byteSize,
      (step source)^[n]
          (scanning pre.byteSize (flags ++ Segment.triviaBytes (x.text ++ rest)) tokens) =
        scanning (pre.byteSize + x.text.byteSize) (flags ++ Segment.triviaBytes (x.text ++ rest))
          (tokens ++ x.tokensAt pre.byteSize) := by
  have hmark : ∀ i < x.text.byteSize,
      (flags ++ Segment.triviaBytes (x.text ++ rest))[pre.byteSize + i]? = some x.isTrivia := by
    intro i hi
    rw [Stretch.triviaBytes_text_append hx, ← hflags, List.getElem?_append_right (by omega),
      Nat.add_sub_cancel_left, List.getElem?_append_left (by simpa using hi),
      List.getElem?_replicate, if_pos hi]
  have hend : pre.byteSize + x.text.byteSize ≤ source.byteSize := by
    rw [hsource, Text.byteSize_append, Text.byteSize_append]
    omega
  generalize flags ++ Segment.triviaBytes (x.text ++ rest) = ignored at *
  cases x with
  | blank c | comment w =>
    refine ⟨_, Nat.le_refl _, ?_⟩
    rw [iterate_scanning_marked _ hmark hend, Stretch.tokensAt, List.append_nil]
  | token kind w =>
    have hpos := Text.byteSize_pos hx.ne_nil
    have hread : Token.read pre.byteSize (w ++ rest) =
        .ok ⟨kind, w, pre.byteSize, pre.byteSize + w.byteSize⟩ :=
      Token.read_eq_ok_iff.2 ⟨rest, rfl, hx, rfl⟩
    refine ⟨1, hpos, ?_⟩
    rw [Function.iterate_one, step_scanning_unmarked hsource
      (List.append_ne_nil_of_left_ne_nil hx.ne_nil rest) (hmark 0 hpos)]
    simp only [Stretch.text, hread]
    rfl

/-- Scanning goes over a reading and keeps its tokens, with at least one byte for each step. -/
theorem exists_iterate_scanning {r : Reading} {source rest : Text} (hr : r.IsReadBefore rest)
    (pre : Text) (flags : List Bool) (hsource : source = pre ++ (r.text ++ rest))
    (hflags : flags.length = pre.byteSize) (tokens : List Token) :
    ∃ n ≤ r.text.byteSize,
      (step source)^[n]
          (scanning pre.byteSize (flags ++ Segment.triviaBytes (r.text ++ rest)) tokens) =
        scanning (pre.byteSize + r.text.byteSize) (flags ++ Segment.triviaBytes (r.text ++ rest))
          (tokens ++ r.tokensFrom pre.byteSize) := by
  induction r generalizing pre flags tokens with
  | nil => exact ⟨0, by simp, by simp [Reading.tokensFrom]⟩
  | cons x r ih =>
    obtain ⟨hx, hrest⟩ := hr
    obtain ⟨m, hm, hfirst⟩ := exists_iterate_stretch hx (by simpa using hsource) hflags tokens
    obtain ⟨n, hn, hlater⟩ := ih hrest (pre ++ x.text)
      (flags ++ List.replicate x.text.byteSize x.isTrivia) (by simpa using hsource)
      (by simp [hflags]) (tokens ++ x.tokensAt pre.byteSize)
    have hmarks := Stretch.triviaBytes_text_append hx
    rw [List.append_assoc, ← hmarks] at hlater
    refine ⟨n + m, by rw [Reading.text_cons, Text.byteSize_append]; omega, ?_⟩
    rw [Function.iterate_add_apply, Reading.text_cons, List.append_assoc, hfirst,
      ← Text.byteSize_append, hlater]
    simp [Reading.tokensFrom, Nat.add_assoc]

/-- Scanning at the end of a text halts with the tokens. -/
theorem step_scanning_end {source : Text} {pos : Nat} (hpos : source.byteSize ≤ pos)
    (ignored : List Bool) (tokens : List Token) :
    step source (scanning pos ignored tokens) = halted (.ok tokens) := by
  rw [step, scanStep?, if_neg (Nat.not_lt.2 hpos)]
  rfl

/-- Scanning where no token can be read halts with the error. -/
theorem step_scanning_of_isStuck {source pre rest : Text} {flags : List Bool}
    {cause : LexicalError.Cause} (h : Reading.IsStuck rest cause) (hsource : source = pre ++ rest)
    (hflags : flags.length = pre.byteSize) (tokens : List Token) :
    step source (scanning pre.byteSize (flags ++ Segment.triviaBytes rest) tokens) =
      halted (.error (LexicalError.locate source (cause, pre.byteSize))) := by
  obtain ⟨y, segments, hsplit, htrivia, hy⟩ := h.split_eq
  have hpos := Text.byteSize_pos hy
  have hunmarked : (flags ++ Segment.triviaBytes rest)[pre.byteSize]? = some false := by
    rw [← hflags, List.getElem?_append_right (Nat.le_refl _), Nat.sub_self, Segment.triviaBytes,
      hsplit, List.flatMap_cons, List.getElem?_append_left (by simpa using hpos),
      List.getElem?_replicate, if_pos hpos, htrivia]
  rw [step_scanning_unmarked hsource h.ne_nil hunmarked, h.token]

/-- Scanning with the marks of the source halts with the answer of `lex`. -/
theorem exists_iterate_scanning_halted (source : Text) :
    ∃ n ≤ source.byteSize + 1,
      (step source)^[n] (scanning 0 (Segment.triviaBytes source) []) = halted (lex source) := by
  obtain ⟨r, rest, rfl, hr, hend⟩ := Reading.exists_reading source
  obtain ⟨n, hn, hrun⟩ := exists_iterate_scanning hr [] [] rfl rfl []
  simp only [List.nil_append, Text.byteSize_nil, Nat.zero_add] at hrun
  refine ⟨n + 1, by rw [Text.byteSize_append]; omega, ?_⟩
  rw [Function.iterate_succ_apply', hrun, lex, Reading.scan_text_append hr]
  rcases hend with rfl | ⟨cause, hstuck⟩
  · rw [step_scanning_end (by simp)]
    simp [Token.scan, Except.mapError]
  · rw [Reading.triviaBytes_text_append hr,
      step_scanning_of_isStuck hstuck rfl (Reading.length_marks r), Reading.scan_of_isStuck hstuck]
    simp [Except.mapError]

/-- A cursor that halts stays where it is. -/
theorem iterate_halted (source : Text) (answer : Except LexicalError (List Token)) (n : Nat) :
    (step source)^[n] (halted answer) = halted answer :=
  Function.iterate_fixed rfl n

/-- A cursor at fault stays at fault. -/
theorem iterate_fault (source : Text) (n : Nat) : (step source)^[n] fault = fault :=
  Function.iterate_fixed rfl n

/-- A run that halts has no fault at any time. -/
theorem iterate_ne_fault {source : Text} {cursor : ByteCursor} {n : Nat}
    {answer : Except LexicalError (List Token)} (h : (step source)^[n] cursor = halted answer)
    (m : Nat) : (step source)^[m] cursor ≠ fault := by
  intro hfault
  have hlate : (step source)^[m + n] cursor = halted answer := by
    rw [Function.iterate_add_apply, h, iterate_halted]
  have hlate' : (step source)^[n + m] cursor = fault := by
    rw [Function.iterate_add_apply, hfault, iterate_fault]
  rw [Nat.add_comm, hlate] at hlate'
  contradiction

end ByteCursor

/-- The tokens of a source tile it, and finding them, or the error, by byte offsets takes at most
one step for each byte and phase and never cuts the source inside a character. -/
theorem lex_accounts_for_every_byte (source : Text) :
    (∀ tokens, lex source = .ok tokens → Token.Tile source tokens) ∧
      (∃ n ≤ source.byteSize + 1, (ByteCursor.step source)^[n] (.start source) =
        .scanning 0 (Segment.triviaBytes source) []) ∧
      (∃ n ≤ 2 * (source.byteSize + 1),
        (ByteCursor.step source)^[n] (.start source) = .halted (lex source)) ∧
      ∀ n, (ByteCursor.step source)^[n] (.start source) ≠ .fault := by
  obtain ⟨m, hm, hmark⟩ : ∃ m ≤ source.byteSize + 1, (ByteCursor.step source)^[m]
      (.start source) = .scanning 0 (Segment.triviaBytes source) [] :=
    ByteCursor.exists_iterate_marking [] [] rfl rfl
  obtain ⟨n, hn, hscan⟩ := ByteCursor.exists_iterate_scanning_halted source
  have hrun : (ByteCursor.step source)^[n + m] (.start source) = .halted (lex source) := by
    rw [Function.iterate_add_apply, hmark, hscan]
  refine ⟨fun tokens htokens => ?_, ⟨m, hm, hmark⟩, ⟨n + m, by omega, hrun⟩,
    ByteCursor.iterate_ne_fault hrun⟩
  obtain ⟨r, rfl, hr, rfl⟩ := lex_eq_ok_iff.1 htokens
  exact Reading.tile_tokensFrom hr

/-- A comment with a character of two bytes lies between two tokens. -/
theorem tile_around_comment :
    lex "int /*ü*/a".toList =
        .ok [⟨.keyword, "int".toList, 0, 3⟩, ⟨.identifier, "a".toList, 10, 11⟩] ∧
      Token.Tile "int /*ü*/a".toList
        [⟨.keyword, "int".toList, 0, 3⟩, ⟨.identifier, "a".toList, 10, 11⟩] := by
  have hlex : lex "int /*ü*/a".toList =
      .ok [⟨.keyword, "int".toList, 0, 3⟩, ⟨.identifier, "a".toList, 10, 11⟩] := by
    decide +kernel
  exact ⟨hlex, (lex_accounts_for_every_byte _).1 _ hlex⟩

end DeclLang
