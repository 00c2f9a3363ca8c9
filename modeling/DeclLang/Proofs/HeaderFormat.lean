import DeclLang.Proofs.FirstFailure
import DeclLang.Proofs.HeaderLine

/-!
# The format of headers

A header is the marker and then words, each of which names a phase, and behind `=` an outcome in any
case of its letters. The words are read in turn, and each sets what is expected of its phase. So
what is expected of a phase in the end is what the last word that names it says, words that name
different phases may change places, and a line that is no header has the error of the first word
that says nothing.
-/

namespace DeclLang

/-- Two texts are the same but for the case of ASCII letters. -/
def Text.SameUpToCase (s t : Text) : Prop := s.map Char.toUpper = t.map Char.toUpper

/-- A carriage return at the end of a line does not outlast trimming. -/
theorem Text.trim_dropReturn (line : Text) : trim (dropReturn line) = trim line := by
  unfold dropReturn
  split
  · rename_i hreturn
    obtain ⟨front, rfl⟩ := List.getLast?_eq_some_iff.1 hreturn
    rw [List.dropLast_concat, trim_concat (by decide)]
  · rfl

/-- A word stands for an expectation when it is its label up to the case of letters. -/
theorem Expectation.ofLabel?_eq_some_iff {word : Text} {expectation : Expectation} :
    ofLabel? word = some expectation ↔ word.SameUpToCase expectation.label.toList := by
  have hlabel : expectation.label.toList.map Char.toUpper = expectation.label.toList := by
    cases expectation <;> decide
  rw [Text.SameUpToCase, hlabel]
  constructor
  · intro h
    have hfound := List.find?_some h
    exact (eq_of_beq hfound).symm
  · intro h
    rw [ofLabel?, h]
    cases expectation <;> decide

/-- A word stands for no expectation when it is the label of none, up to the case of letters. -/
theorem Expectation.ofLabel?_eq_none_iff {word : Text} :
    ofLabel? word = none ↔
      ∀ expectation : Expectation, ¬ word.SameUpToCase expectation.label.toList := by
  simp only [Option.eq_none_iff_forall_ne_some, Ne, ofLabel?_eq_some_iff]

/-- A word is the name of a phase only if it is spelled so. -/
theorem Phase.ofName?_eq_some_iff {word : Text} {phase : Phase} :
    ofName? word = some phase ↔ word = phase.name.toList := by
  constructor
  · intro h
    have hfound := List.find?_some h
    exact (eq_of_beq hfound).symm
  · rintro rfl
    cases phase <;> decide

/-- A word is the name of no phase when none is spelled so. -/
theorem Phase.ofName?_eq_none_iff {word : Text} :
    ofName? word = none ↔ ∀ phase : Phase, word ≠ phase.name.toList := by
  simp only [Option.eq_none_iff_forall_ne_some, Ne, ofName?_eq_some_iff]

/-- Phases have different names. -/
theorem Phase.name_inj {phase other : Phase} :
    phase.name.toList = other.name.toList ↔ phase = other := by
  rw [← ofName?_eq_some_iff, ofName?_eq_some_iff.2 rfl, Option.some_inj]

/-- Values for the phases are no more than the value for each. -/
theorem PerPhase.ext_get {α : Type} {a b : PerPhase α} (h : ∀ phase, a.get phase = b.get phase) :
    a = b := by
  obtain ⟨_, _, _⟩ := a
  obtain ⟨_, _, _⟩ := b
  exact congr (congr (congrArg PerPhase.mk (h .lexical)) (h .syntactic)) (h .semantic)

namespace Header

/-- A word names a phase when the name of the phase is what stands before its first `=`. -/
def Names (phase : Phase) (word : Text) : Prop := phase.name.toList ++ ['='] <+: word

instance (phase : Phase) : DecidablePred (Names phase) :=
  fun word => inferInstanceAs (Decidable (phase.name.toList ++ ['='] <+: word))

/-- A word sets what is expected of a phase when it names the phase and has behind `=` the label of
the expectation, up to the case of letters. -/
def Sets (word : Text) (phase : Phase) (expectation : Expectation) : Prop :=
  ∃ value : Text, word = phase.name.toList ++ '=' :: value ∧
    value.SameUpToCase expectation.label.toList

/-- A word that sets nothing, with the error that says why. -/
inductive Offends : Text → HeaderError → Prop
  | noOutcome {word : Text} (h : '=' ∉ word) : Offends word (.noOutcome word)
  | unknownPhase {key value : Text} (hkey : '=' ∉ key)
      (h : ∀ phase : Phase, key ≠ phase.name.toList) :
    Offends (key ++ '=' :: value) (.unknownPhase key)
  | unknownOutcome {phase : Phase} {value : Text}
      (h : ∀ expectation : Expectation, ¬ value.SameUpToCase expectation.label.toList) :
    Offends (phase.name.toList ++ '=' :: value) (.unknownOutcome value phase.name.toList)

variable {word value key rest : Text} {words : List Text} {phase : Phase}
  {expectation : Expectation} {s t expected : PerPhase Expectation} {e : HeaderError}

/-- The name of a phase holds no `=`. -/
theorem notMem_name (phase : Phase) : '=' ∉ phase.name.toList := by cases phase <;> decide

/-- A word has no key just when it has no `=`. -/
theorem cutWord?_eq_none_iff : cutWord? word = none ↔ '=' ∉ word := by
  unfold cutWord?
  split <;> simp [*]

/-- The key of a word is what stands before its first `=`, and the value is all behind it. -/
theorem cutWord?_eq_some_iff :
    cutWord? word = some (key, value) ↔ word = key ++ '=' :: value ∧ '=' ∉ key := by
  have hcut {key value : Text} (hkey : '=' ∉ key) :
      cutWord? (key ++ '=' :: value) = some (key, value) := by
    have hpass : ∀ c ∈ key, decide (c ≠ '=') := fun c hc => by
      simpa using ne_of_mem_of_not_mem hc hkey
    have hstop : ∀ c ∈ ('=' :: value).head?, decide (c ≠ '=') = false := by simp
    rw [cutWord?, if_pos (by simp), Text.takeWhile_append_eq hpass hstop,
      Text.dropWhile_append_eq hpass hstop]
    rfl
  constructor
  · intro h
    have hmem : '=' ∈ word := by
      by_contra hnone
      rw [cutWord?_eq_none_iff.2 hnone] at h
      contradiction
    obtain ⟨first, behind, rfl, hfirst⟩ := List.eq_append_cons_of_mem hmem
    obtain ⟨rfl, rfl⟩ := Prod.mk.inj (Option.some.inj ((hcut hfirst).symm.trans h))
    exact ⟨rfl, hfirst⟩
  · rintro ⟨rfl, hkey⟩
    exact hcut hkey

/-- A word sets an expectation by its key and its value. -/
theorem sets_iff : Sets word phase expectation ↔
    ∃ value, cutWord? word = some (phase.name.toList, value) ∧
      Expectation.ofLabel? value = some expectation := by
  simp only [Sets, cutWord?_eq_some_iff, Expectation.ofLabel?_eq_some_iff, notMem_name,
    not_false_eq_true, and_true]

/-- A word that is read sets what is expected of one phase. -/
theorem readWord_eq_ok_iff :
    readWord s word = .ok t ↔
      ∃ phase expectation, Sets word phase expectation ∧ t = s.set phase expectation := by
  simp only [sets_iff, readWord]
  cases hcut : cutWord? word with
  | none => simp
  | some cut =>
    obtain ⟨key, value⟩ := cut
    cases hkey : Phase.ofName? key with
    | none =>
      have hother (phase : Phase) : key ≠ phase.name.toList := fun h => by
        simp [Phase.ofName?_eq_some_iff.2 h] at hkey
      simp [hkey, hother]
    | some phase =>
      obtain rfl := Phase.ofName?_eq_some_iff.1 hkey
      cases hvalue : Expectation.ofLabel? value with
      | none => simp [hkey, hvalue]
      | some expectation => simp [hkey, hvalue, Phase.name_inj, eq_comm]

/-- A word that sets nothing has the error that says why, whatever was set before. -/
theorem readWord_eq_error_iff : readWord s word = .error e ↔ Offends word e := by
  constructor
  · intro h
    unfold readWord at h
    cases hcut : cutWord? word with
    | none =>
      rw [hcut] at h
      cases h
      exact .noOutcome (cutWord?_eq_none_iff.1 hcut)
    | some cut =>
      obtain ⟨key, value⟩ := cut
      obtain ⟨rfl, hnone⟩ := cutWord?_eq_some_iff.1 hcut
      cases hkey : Phase.ofName? key with
      | none =>
        simp only [hcut, hkey] at h
        cases h
        exact .unknownPhase hnone (Phase.ofName?_eq_none_iff.1 hkey)
      | some phase =>
        obtain rfl := Phase.ofName?_eq_some_iff.1 hkey
        cases hvalue : Expectation.ofLabel? value with
        | none =>
          simp only [hcut, hkey, hvalue] at h
          cases h
          exact .unknownOutcome (Expectation.ofLabel?_eq_none_iff.1 hvalue)
        | some expectation => simp [hcut, hkey, hvalue] at h
  · rintro (hnone | ⟨hkey, hother⟩ | hother)
    · rw [readWord, cutWord?_eq_none_iff.2 hnone]
    · simp only [readWord, cutWord?_eq_some_iff.2 ⟨rfl, hkey⟩,
        Phase.ofName?_eq_none_iff.2 hother]
    · simp only [readWord, cutWord?_eq_some_iff.2 ⟨rfl, notMem_name _⟩,
        Phase.ofName?_eq_some_iff.2 rfl, Expectation.ofLabel?_eq_none_iff.2 hother]

/-- A word sets something just when nothing is wrong with it. -/
theorem forall_not_offends_iff :
    (∀ e, ¬ Offends word e) ↔ ∃ phase expectation, Sets word phase expectation := by
  simp only [← readWord_eq_error_iff (s := .replicate .skip)]
  cases hread : readWord (.replicate .skip) word with
  | ok t =>
    obtain ⟨phase, expectation, hsets, -⟩ := readWord_eq_ok_iff.1 hread
    simpa using ⟨phase, expectation, hsets⟩
  | error e =>
    have hnone (phase : Phase) (expectation : Expectation) : ¬ Sets word phase expectation := by
      intro hsets
      simp [readWord_eq_ok_iff.2 ⟨phase, expectation, hsets, rfl⟩] at hread
    simp [hnone]

/-- Words are read when each of them sets something. -/
theorem exists_foldlM_readWord_iff :
    (∃ t, words.foldlM readWord s = .ok t) ↔
      ∀ word ∈ words, ∃ phase expectation, Sets word phase expectation := by
  simp only [← forall_not_offends_iff]
  refine exists_foldlM_eq_ok_iff ?_
  exact fun _ _ _ => readWord_eq_error_iff

/-- The error of words is that of the first that sets nothing. -/
theorem foldlM_readWord_eq_error_iff :
    words.foldlM readWord s = .error e ↔ ∃ before word later, words = before ++ word :: later ∧
      (∀ earlier ∈ before, ∃ phase expectation, Sets earlier phase expectation) ∧
        Offends word e := by
  simp only [← forall_not_offends_iff]
  refine foldlM_eq_error_iff ?_
  exact fun _ _ _ => readWord_eq_error_iff

/-- A word that sets what is expected of a phase names this phase and no other. -/
theorem Sets.names_iff (h : Sets word phase expectation) {other : Phase} :
    Names other word ↔ other = phase := by
  obtain ⟨value, hword, -⟩ := h
  constructor
  · rintro ⟨rest, hother⟩
    have hkey : cutWord? word = some (phase.name.toList, value) :=
      cutWord?_eq_some_iff.2 ⟨hword, notMem_name phase⟩
    have hkey' : cutWord? word = some (other.name.toList, rest) :=
      cutWord?_eq_some_iff.2 ⟨by simp [← hother], notMem_name other⟩
    exact Phase.name_inj.1 (Prod.mk.inj (Option.some.inj (hkey'.symm.trans hkey))).1
  · rintro rfl
    exact ⟨value, by simp [hword]⟩

/-- A word says one thing of a phase. -/
theorem Sets.unique {expectation' : Expectation} (h : Sets word phase expectation)
    (h' : Sets word phase expectation') : expectation = expectation' := by
  obtain ⟨value, hcut, hlabel⟩ := sets_iff.1 h
  obtain ⟨value', hcut', hlabel'⟩ := sets_iff.1 h'
  obtain ⟨-, rfl⟩ := Prod.mk.inj (Option.some.inj (hcut.symm.trans hcut'))
  exact Option.some.inj (hlabel.symm.trans hlabel')

/-- What is expected of a phase after words is what the last word that names it says, or what was
expected before if none does. -/
theorem get_of_foldlM_readWord (h : words.foldlM readWord s = .ok t) (phase : Phase) :
    (∀ word ∈ (words.filter (Names phase)).getLast?, Sets word phase (t.get phase)) ∧
      ((∀ word ∈ words, ¬ Names phase word) → t.get phase = s.get phase) := by
  induction words using List.reverseRecOn generalizing t with
  | nil =>
    cases h
    simp
  | append_singleton words word ih =>
    simp only [List.foldlM_append, List.foldlM_cons, List.foldlM_nil, bind_pure] at h
    cases hwords : words.foldlM readWord s with
    | error e => simp [hwords, bind, Except.bind] at h
    | ok u =>
      rw [hwords] at h
      obtain ⟨other, expectation, hsets, rfl⟩ := readWord_eq_ok_iff.1 h
      obtain ⟨hlast, hunnamed⟩ := ih hwords
      rw [List.filter_append, PerPhase.get_set]
      by_cases hphase : phase = other
      · have hnames : Names phase word := hsets.names_iff.2 hphase
        subst hphase
        refine ⟨?_, fun hnone => absurd hnames (hnone word (by simp))⟩
        simpa [hnames] using hsets
      · have hnames : ¬ Names phase word := fun h => hphase (hsets.names_iff.1 h)
        rw [if_neg hphase, List.filter_cons_of_neg (by simpa using hnames), List.filter_nil,
          List.append_nil]
        exact ⟨hlast, fun hnone => hunnamed fun w hw => hnone w (List.mem_append_left _ hw)⟩

/-- What is expected of the phases is settled by the words that name them. -/
theorem get_eq_of_foldlM_readWord {words' : List Text} {t' : PerPhase Expectation}
    (h : words.foldlM readWord s = .ok t) (h' : words'.foldlM readWord s = .ok t')
    (horder : words.filter (Names phase) = words'.filter (Names phase)) :
    t'.get phase = t.get phase := by
  obtain ⟨hlast, hunnamed⟩ := get_of_foldlM_readWord h phase
  obtain ⟨hlast', hunnamed'⟩ := get_of_foldlM_readWord h' phase
  rw [← horder] at hlast'
  cases hword : (words.filter (Names phase)).getLast? with
  | none =>
    have hnone := List.getLast?_eq_none_iff.1 hword
    rw [hunnamed (by simpa using hnone), hunnamed' (by simpa [horder] using hnone)]
  | some word =>
    exact (hlast' word hword).unique (hlast word hword)

/-- The line of a header is the first line of its source. -/
theorem firstLine_eq (source : Text) :
    firstLine source = Text.trim ((Text.lines source).headD []) := by
  have hnone := newline_notMem_line source
  change Text.trim (line source) = _
  rw [Text.lines, Text.splitLines]
  rcases eq_line_or source with ⟨hsource, -⟩ | hsource
  · rw [← hsource] at hnone ⊢
    rw [List.splitOn_eq_singleton hnone]
    cases source <;> rfl
  · have hsplit : source.splitOn '\n' = line source :: (body source).splitOn '\n' := by
      conv_lhs => rw [hsource]
      exact List.splitOn_append_cons_self_of_not_mem hnone _
    rw [hsplit, List.dropLast_cons_of_ne_nil (List.splitOn_ne_nil _ _), List.map_cons]
    exact (Text.trim_dropReturn _).symm

/-- The words of a header are those behind the marker of the first line, trimmed. -/
def HasWords (source : Text) (words : List Text) : Prop :=
  ∃ rest, Text.trim ((Text.lines source).headD []) = marker.toList ++ rest ∧
    Text.words rest = words

/-- The same words in an order that is the same for the words that name any one phase. -/
structure IsRearrangement (words words' : List Text) : Prop where
  /-- Every word is there as often as before. -/
  perm : words.Perm words'
  /-- The words that name a phase come in the same order as before. -/
  order : ∀ phase, words.filter (Names phase) = words'.filter (Names phase)

/-- A header has its words in one way. -/
theorem HasWords.unique {source : Text} {words' : List Text} (h : HasWords source words)
    (h' : HasWords source words') : words = words' := by
  obtain ⟨rest, hline, rfl⟩ := h
  obtain ⟨rest', hline', rfl⟩ := h'
  rw [List.append_cancel_left (hline.symm.trans hline')]

/-- The words of a header are read in turn. -/
theorem HasWords.parse_eq {source : Text} (h : HasWords source words) :
    parse source = words.foldlM readWord (.replicate .skip) := by
  obtain ⟨rest, hline, rfl⟩ := h
  have hmarker : marker.toList.isPrefixOf (marker.toList ++ rest) :=
    List.isPrefixOf_iff_prefix.2 (List.prefix_append _ _)
  have hlength : marker.length = marker.toList.length := rfl
  rw [parse, firstLine_eq, hline, if_pos hmarker, hlength, List.drop_left]

/-- A line without the marker has no words, and that is what is wrong with it. -/
theorem parse_eq_missingMarker {source : Text} (h : ¬ ∃ words, HasWords source words) :
    parse source = .error .missingMarker := by
  rw [parse, if_neg]
  intro hmarker
  obtain ⟨rest, hrest⟩ := List.isPrefixOf_iff_prefix.1 hmarker
  exact h ⟨_, rest, by rw [← firstLine_eq, hrest], rfl⟩

/-- Rearranged words lead to the same expectations. -/
theorem IsRearrangement.foldlM_readWord {words' : List Text} (h : IsRearrangement words words')
    (hread : words.foldlM readWord s = .ok t) : words'.foldlM readWord s = .ok t := by
  have hsets := exists_foldlM_readWord_iff.1 ⟨t, hread⟩
  obtain ⟨t', hread'⟩ := exists_foldlM_readWord_iff.2 fun word hword =>
    hsets word (h.perm.mem_iff.2 hword)
  rw [hread', PerPhase.ext_get fun phase => get_eq_of_foldlM_readWord hread hread' (h.order phase)]

/-- Headers are accepted by their format. A source has expectations just when its first line,
trimmed, is the marker and then words each of which sets what is expected of a phase. Then the last
word that names a phase says what is expected of it, a phase that no word names is to be skipped,
and no rearrangement of words that name different phases changes anything. Otherwise the error is
that the marker is missing, or it is the one of the first word that sets nothing. -/
theorem parse_accepts_format (source : Text) :
    ((∃ expected, parse source = .ok expected) ↔ ∃ words, HasWords source words ∧
      ∀ word ∈ words, ∃ phase expectation, Sets word phase expectation) ∧
    (∀ words expected, HasWords source words → parse source = .ok expected →
      (∀ phase,
        (∀ word ∈ (words.filter (Names phase)).getLast?,
          Sets word phase (expected.get phase)) ∧
        ((∀ word ∈ words, ¬ Names phase word) → expected.get phase = .skip)) ∧
      ∀ other words', HasWords other words' → IsRearrangement words words' →
        parse other = .ok expected) ∧
    ∀ e, parse source = .error e ↔
      (¬ ∃ words, HasWords source words) ∧ e = .missingMarker ∨
      ∃ before word later, HasWords source (before ++ word :: later) ∧
        (∀ earlier ∈ before, ∃ phase expectation, Sets earlier phase expectation) ∧
        Offends word e := by
  refine ⟨?_, ?_, ?_⟩
  · constructor
    · rintro ⟨expected, hparse⟩
      by_cases hwords : ∃ words, HasWords source words
      · obtain ⟨words, hwords⟩ := hwords
        rw [hwords.parse_eq] at hparse
        exact ⟨words, hwords, exists_foldlM_readWord_iff.1 ⟨expected, hparse⟩⟩
      · rw [parse_eq_missingMarker hwords] at hparse
        contradiction
    · rintro ⟨words, hwords, hsets⟩
      rw [hwords.parse_eq]
      exact exists_foldlM_readWord_iff.2 hsets
  · intro words expected hwords hparse
    rw [hwords.parse_eq] at hparse
    refine ⟨fun phase => ?_, fun other words' hother hrearranged => ?_⟩
    · have hskip : (PerPhase.replicate Expectation.skip).get phase = .skip := by
        cases phase <;> rfl
      rw [← hskip]
      exact get_of_foldlM_readWord hparse phase
    · rw [hother.parse_eq]
      exact hrearranged.foldlM_readWord hparse
  · intro e
    by_cases hwords : ∃ words, HasWords source words
    · obtain ⟨words, hwords⟩ := hwords
      rw [hwords.parse_eq, foldlM_readWord_eq_error_iff]
      constructor
      · rintro ⟨before, word, later, rfl, hbefore, hword⟩
        exact .inr ⟨before, word, later, hwords, hbefore, hword⟩
      · rintro (⟨hnone, -⟩ | ⟨before, word, later, hother, hbefore, hword⟩)
        · exact absurd ⟨words, hwords⟩ hnone
        · exact ⟨before, word, later, hwords.unique hother, hbefore, hword⟩
    · rw [parse_eq_missingMarker hwords]
      constructor
      · rintro ⟨⟩
        exact .inl ⟨hwords, rfl⟩
      · rintro (⟨-, rfl⟩ | ⟨before, word, later, hother, -⟩)
        · rfl
        · exact absurd ⟨_, hother⟩ hwords

/-- Of two words about one phase the later one counts, wherever words about other phases stand. -/
theorem parse_rearranged_words :
    HasWords "// expect:lexical=pass syntax=Error lexical=skip\r\n".toList
        ["lexical=pass".toList, "syntax=Error".toList, "lexical=skip".toList] ∧
      parse "// expect:lexical=pass syntax=Error lexical=skip\r\n".toList =
        .ok ⟨.skip, .error, .skip⟩ ∧
      parse "\t// expect: lexical=pass\u00a0lexical=skip syntax=Error".toList =
        .ok ⟨.skip, .error, .skip⟩ := by
  have hwords : HasWords "// expect:lexical=pass syntax=Error lexical=skip\r\n".toList
      ["lexical=pass".toList, "syntax=Error".toList, "lexical=skip".toList] :=
    ⟨"lexical=pass syntax=Error lexical=skip".toList, by decide +kernel, by decide +kernel⟩
  have hother : HasWords "\t// expect: lexical=pass\u00a0lexical=skip syntax=Error".toList
      ["lexical=pass".toList, "lexical=skip".toList, "syntax=Error".toList] :=
    ⟨" lexical=pass\u00a0lexical=skip syntax=Error".toList, by decide +kernel, by decide +kernel⟩
  have hparse : parse "// expect:lexical=pass syntax=Error lexical=skip\r\n".toList =
      .ok ⟨.skip, .error, .skip⟩ := by
    decide +kernel
  have hrearranged : IsRearrangement
      ["lexical=pass".toList, "syntax=Error".toList, "lexical=skip".toList]
      ["lexical=pass".toList, "lexical=skip".toList, "syntax=Error".toList] :=
    ⟨by decide, fun phase => by cases phase <;> decide⟩
  obtain ⟨-, hvalues, -⟩ := parse_accepts_format
    "// expect:lexical=pass syntax=Error lexical=skip\r\n".toList
  exact ⟨hwords, hparse, (hvalues _ _ hwords hparse).2 _ _ hother hrearranged⟩

end Header

end DeclLang
