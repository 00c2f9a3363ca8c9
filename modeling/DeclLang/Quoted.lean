import DeclLang.Text.Basic

/-!
# Quoted literals

A quoted literal runs from a quote to the next quote of the same kind that no backslash stands
before. Three readings of this differ in their treatment of newlines: a token has none at all, a
value may contain one but not right after a backslash, and the search for comments steps over one
only right after a backslash.
-/

namespace DeclLang.Quoted

/-- The rest of a literal through its closing quote, where a backslash takes one more character
along and no newline is allowed unless `newlines` is set, and then not after a backslash. -/
def tail? (quote : Char) (newlines : Bool) : Text → Option Text
  | [] => none
  | ['\\'] => none
  | '\\' :: c :: rest =>
    if c = '\n' then none else (tail? quote newlines rest).map ('\\' :: c :: ·)
  | c :: rest =>
    if c = quote then some [c]
    else if c = '\n' ∧ !newlines then none
    else (tail? quote newlines rest).map (c :: ·)

/-- The quoted literal at the front of a text. -/
def front? (quote : Char) (newlines : Bool) : Text → Option Text
  | [] => none
  | c :: rest => if c = quote then (tail? quote newlines rest).map (quote :: ·) else none

/-- The rest of a literal through its closing quote, where a backslash takes any character along
and any other newline ends the search. -/
def closing? (quote : Char) : Text → Option Text
  | [] => none
  | ['\\'] => none
  | '\\' :: c :: rest => (closing? quote rest).map ('\\' :: c :: ·)
  | c :: rest =>
    if c = '\n' then none
    else if c = quote then some [c]
    else (closing? quote rest).map (c :: ·)

/-- The rest of a literal is the front of what follows the quote. -/
theorem tail?_isPrefix {quote : Char} {newlines : Bool} {s w : Text}
    (h : tail? quote newlines s = some w) : w <+: s := by
  fun_induction tail? quote newlines s generalizing w with
  | case1 | case2 | case3 | case6 => simp at h
  | case4 c rest _ ih =>
    obtain ⟨u, hu, rfl⟩ := Option.map_eq_some_iff.1 h
    simpa using ih hu
  | case5 => cases h; simp
  | case7 c rest _ _ _ _ ih =>
    obtain ⟨u, hu, rfl⟩ := Option.map_eq_some_iff.1 h
    simpa using ih hu

/-- A literal found at the front of a text is a front of it. -/
theorem front?_isFront {quote : Char} {newlines : Bool} {s w : Text}
    (h : front? quote newlines s = some w) : Text.IsFront w s := by
  unfold front? at h
  split at h
  · simp at h
  · simp only [Option.ite_none_right_eq_some, Option.map_eq_some_iff] at h
    obtain ⟨rfl, u, hu, rfl⟩ := h
    exact ⟨by simpa using tail?_isPrefix hu, by simp⟩

/-- What is stepped over after a quote is the front of what follows it. -/
theorem closing?_isPrefix {quote : Char} {s w : Text} (h : closing? quote s = some w) :
    w <+: s := by
  fun_induction closing? quote s generalizing w with
  | case1 | case2 | case4 => simp at h
  | case3 c rest ih =>
    obtain ⟨u, hu, rfl⟩ := Option.map_eq_some_iff.1 h
    simpa using ih hu
  | case5 c rest => cases h; simp
  | case6 c rest _ _ _ _ ih =>
    obtain ⟨u, hu, rfl⟩ := Option.map_eq_some_iff.1 h
    simpa using ih hu

/-- Whether the text between two quotes is one character: a raw one that is no backslash, or a
backslash with one character after it. -/
def isSingle : Text → Bool
  | [c] => c ≠ '\\'
  | [mark, _] => mark = '\\'
  | _ => false

/-- The text of a literal without its two quotes. -/
def content (literal : Text) : Text := literal.tail.dropLast

end DeclLang.Quoted
