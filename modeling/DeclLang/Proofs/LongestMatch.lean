import DeclLang.Proofs.FirstProduction
import DeclLang.Proofs.NumberShape
import Mathlib.Data.List.MinMax

/-!
# Longest matches

A token is read by the first production that matches. Where several match, all of them are
productions for numbers, and each takes more of the parts of a number than the ones after it do: a
suffix letter, or a point. So the matches get shorter from production to production, and the first
one is the longest.
-/

namespace DeclLang

/-- Wherever both productions match, the first one takes more. -/
def Production.Outruns (p q : Production) : Prop :=
  ∀ s w v, p.front? s = some w → q.front? s = some v → v.byteSize < w.byteSize

namespace Numeral

/-- Sign and digits are at most all that was cut off. -/
theorem byteSize_sign_append_whole_le (n : Numeral) :
    (n.sign ++ n.whole).byteSize ≤ n.body.byteSize := by
  rw [body, Text.byteSize_append (n.sign ++ n.whole)]
  exact Nat.le_add_right _ _

/-- The point makes a number longer than its sign and digits. -/
theorem byteSize_sign_append_whole_lt {n : Numeral} (h : n.fraction.isSome) :
    (n.sign ++ n.whole).byteSize < n.body.byteSize := by
  obtain ⟨digits, hdigits⟩ := Option.isSome_iff_exists.1 h
  have hpoint := Text.byteSize_pos (List.cons_ne_nil '.' digits)
  rw [body, hdigits, Text.byteSize_append (n.sign ++ n.whole)]
  exact Nat.lt_add_of_pos_right hpoint

end Numeral

namespace Number

open Production (Outruns)

/-- The productions for numbers, in the order of precedence. -/
def productions : List Production :=
  [.floatWithSuffix, .floatPlain, .integerWithSuffix, .integerPlain]

/-- The production of a number is one of them. -/
theorem production_mem_productions (n : Numeral) : production n ∈ productions := by
  unfold production
  repeat' split
  all_goals decide

section

variable {letters : List Char} {s w v : Text}

/-- A suffix letter makes a number longer. -/
theorem byteSize_body_lt (h : suffixed? letters s = some w) :
    (Numeral.read s).body.byteSize < w.byteSize := by
  obtain ⟨-, c, -, -, rfl⟩ := suffixed?_eq_some_iff.1 h
  rw [Text.byteSize_append]
  exact Nat.lt_add_of_pos_right (Text.byteSize_pos (List.cons_ne_nil c []))

/-- A number with a suffix letter is longer than its digits. -/
theorem byteSize_integer_lt (hw : suffixed? letters s = some w) (hv : integer? s = some v) :
    v.byteSize < w.byteSize := by
  obtain ⟨-, rfl⟩ := integer?_eq_some_iff.1 hv
  exact Nat.lt_of_le_of_lt (Numeral.read s).byteSize_sign_append_whole_le (byteSize_body_lt hw)

/-- The suffix letters of integers are not those of floats. -/
theorem suffixed?_float_eq_none (h : suffixed? ['l', 'L'] s = some w) :
    suffixed? ['f', 'F', 'd', 'D'] s = none := by
  have hdisjoint : ∀ c ∈ ['l', 'L'], c ∉ ['f', 'F', 'd', 'D'] := by simp
  obtain ⟨-, c, hc, hhead, -⟩ := suffixed?_eq_some_iff.1 h
  rw [Option.eq_none_iff_forall_ne_some]
  intro u hu
  obtain ⟨-, d, hd, hhead', -⟩ := suffixed?_eq_some_iff.1 hu
  obtain rfl := Option.some.inj (hhead.symm.trans hhead')
  exact hdisjoint c hc hd

end

/-- The productions for numbers take less and less. -/
theorem pairwise_outruns : productions.Pairwise Outruns := by
  have hletterPoint : Outruns .floatWithSuffix .floatPlain := by
    intro s w v hw hv
    obtain ⟨-, -, rfl⟩ := pointed?_eq_some_iff.1 hv
    exact byteSize_body_lt hw
  have hletterLetter : Outruns .floatWithSuffix .integerWithSuffix := by
    intro s w v hw hv
    have hnone := suffixed?_float_eq_none (suffixedInteger?_eq_some_iff.1 hv).2
    exact absurd (hw.symm.trans hnone) (Option.some_ne_none w)
  have hletterDigits : Outruns .floatWithSuffix .integerPlain :=
    fun s w v hw hv => byteSize_integer_lt hw hv
  have hpointLetter : Outruns .floatPlain .integerWithSuffix := by
    intro s w v hw hv
    have hpoint := (pointed?_eq_some_iff.1 hw).2.1
    rw [(suffixedInteger?_eq_some_iff.1 hv).1] at hpoint
    contradiction
  have hpointDigits : Outruns .floatPlain .integerPlain := by
    intro s w v hw hv
    obtain ⟨-, hpoint, rfl⟩ := pointed?_eq_some_iff.1 hw
    obtain ⟨-, rfl⟩ := integer?_eq_some_iff.1 hv
    exact Numeral.byteSize_sign_append_whole_lt hpoint
  have hlastDigits : Outruns .integerWithSuffix .integerPlain :=
    fun s w v hw hv => byteSize_integer_lt (suffixedInteger?_eq_some_iff.1 hw).2 hv
  simp only [productions, List.pairwise_cons, List.forall_mem_cons, List.not_mem_nil,
    IsEmpty.forall_iff, implies_true, and_true, List.Pairwise.nil]
  exact ⟨⟨hletterPoint, hletterLetter, hletterDigits⟩, ⟨hpointLetter, hpointDigits⟩, hlastDigits⟩

end Number

namespace Production

section

variable {p q : Production} {s w v : Text}

/-- Where a production for numbers matches, the first match is by one. -/
theorem mem_productions_of_first? (hp : p ∈ Number.productions) (hw : p.front? s = some w)
    (hv : first? s = some (q, v)) : q ∈ Number.productions := by
  have hnumber : (Number.first? s).isSome := by
    rw [← Number.first?_eq, List.findSome?_isSome_iff]
    exact ⟨p, hp, by rw [hw]; rfl⟩
  obtain ⟨⟨r, u⟩, hr⟩ := Option.isSome_iff_exists.1 hnumber
  obtain ⟨rfl, rfl⟩ := Prod.mk.inj (Option.some.inj ((first?_of_number hr).symm.trans hv))
  obtain ⟨-, rfl, -⟩ := Number.first?_eq_some hr
  exact Number.production_mem_productions _

/-- A production that is not for numbers is the first one wherever it matches. -/
theorem first?_of_front? (hp : p ∉ Number.productions) (h : p.front? s = some w) :
    first? s = some (p, w) := by
  rw [first?_eq_some_iff]
  cases p with
  | stringLiteral => exact .inl ⟨rfl, h⟩
  | charLiteral => exact .inr (.inl ⟨rfl, h⟩)
  | floatWithSuffix | floatPlain | integerWithSuffix | integerPlain =>
    exact absurd (by decide) hp
  | word => exact .inr (.inr (.inr (.inl ⟨rfl, h⟩)))
  | symbol => exact .inr (.inr (.inr (.inr ⟨rfl, h⟩)))

/-- Where two productions match, both are for numbers. -/
theorem mem_productions_of_ne (hne : p ≠ q) (hw : p.front? s = some w) (hv : q.front? s = some v) :
    p ∈ Number.productions := by
  by_contra hp
  have hfirst := first?_of_front? hp hw
  by_cases hq : q ∈ Number.productions
  · exact hp (mem_productions_of_first? hq hv hfirst)
  · have hpair := Option.some.inj (hfirst.symm.trans (first?_of_front? hq hv))
    exact hne (Prod.mk.inj hpair).1

end

/-- Every production outruns the later ones. -/
theorem pairwise_outruns : all.Pairwise Outruns := by
  have horder : all.Pairwise fun p q => p ≠ q ∧
      (p ∈ Number.productions → q ∈ Number.productions → [p, q].Sublist Number.productions) := by
    decide
  -- both match, so both are for numbers and the order is the one among those
  refine horder.imp fun {p q} ⟨hne, hsublist⟩ s w v hw hv => ?_
  have hp := mem_productions_of_ne hne hw hv
  have hq := mem_productions_of_ne hne.symm hv hw
  exact List.pairwise_iff_forall_sublist.1 Number.pairwise_outruns (hsublist hp hq) s w v hw hv

/-- The matches at the front of a text get shorter. -/
theorem pairwise_fronts (s : Text) :
    (fronts s).Pairwise fun m n => n.2.byteSize < m.2.byteSize := by
  rw [fronts, List.pairwise_filterMap]
  refine pairwise_outruns.imp fun {p q} houtruns m hm n hn => ?_
  obtain ⟨w, hw, rfl⟩ := Option.map_eq_some_iff.1 hm
  obtain ⟨v, hv, rfl⟩ := Option.map_eq_some_iff.1 hn
  exact houtruns s w v hw hv

section

variable {α : Type} {size : α → Nat} {items : List α}

/-- In a list of smaller and smaller items the first one is the one that exceeds all others. -/
theorem head?_eq_some_iff_of_pairwise (h : items.Pairwise fun a b => size b < size a) {m : α} :
    items.head? = some m ↔ m ∈ items ∧ ∀ n ∈ items, n ≠ m → size n < size m := by
  cases items with
  | nil => simp
  | cons a rest =>
    have hfirst := (List.pairwise_cons.1 h).1
    rw [List.head?_cons, Option.some.injEq]
    constructor
    · rintro rfl
      exact ⟨List.mem_cons_self, fun n hn hne => hfirst n ((List.mem_cons.1 hn).resolve_left hne)⟩
    · rintro ⟨hm, hexceeds⟩
      by_contra hne
      have hsmaller := hfirst m ((List.mem_cons.1 hm).resolve_left (Ne.symm hne))
      exact Nat.lt_asymm hsmaller (hexceeds a List.mem_cons_self hne)

/-- In a list of smaller and smaller items the first one is the largest. -/
theorem argmax_eq_head? (h : items.Pairwise fun a b => size b < size a) :
    items.argmax size = items.head? := by
  cases items with
  | nil => rfl
  | cons a rest =>
    rw [List.argmax_cons]
    cases hrest : rest.argmax size with
    | none => rfl
    | some b =>
      have hb : size b < size a := (List.pairwise_cons.1 h).1 b (List.argmax_mem hrest)
      exact if_neg (Nat.lt_asymm hb)

end

/-- The longest match at the front of a text. -/
def longest? (s : Text) : Option (Production × Text) := (fronts s).argmax (·.2.byteSize)

/-- The first match at the front of a text is strictly longer than every other one, and the only
match that is. Hence it is the longest match, and the token at the front of a text can as well be
read by the longest match. -/
theorem first?_longer_than_others (s : Text) :
    (∀ m, first? s = some m ↔
      m ∈ fronts s ∧ ∀ n ∈ fronts s, n ≠ m → n.2.byteSize < m.2.byteSize) ∧
    longest? s = first? s ∧
    ∀ offset, Token.read offset s =
      match longest? s with
      | none => .error (.unmatched s)
      | some (production, lexeme) => (Token.classify production lexeme).map fun kind =>
          ⟨kind, lexeme, offset, offset + lexeme.byteSize⟩ := by
  have hlongest : longest? s = first? s := by
    rw [longest?, argmax_eq_head? (pairwise_fronts s), first?_eq_head?]
  refine ⟨fun m => ?_, hlongest, fun offset => ?_⟩
  · rw [first?_eq_head?, head?_eq_some_iff_of_pairwise (pairwise_fronts s)]
  · rw [hlongest, Token.read]
    cases first? s with
    | none => rfl
    | some m => cases hkind : Token.classify m.1 m.2 <;> simp [hkind, Except.map]

/-- Three productions match here, and the first one takes the suffix letter as well. -/
theorem first?_longer_than_others_suffix :
    fronts "-12.5fx".toList = [(.floatWithSuffix, "-12.5f".toList),
      (.floatPlain, "-12.5".toList), (.integerPlain, "-12".toList)] ∧
    ∀ n ∈ fronts "-12.5fx".toList, n ≠ (.floatWithSuffix, "-12.5f".toList) → n.2.byteSize < 6 :=
  have hfirst : first? "-12.5fx".toList = some (.floatWithSuffix, "-12.5f".toList) := by decide
  ⟨by decide, (((first?_longer_than_others "-12.5fx".toList).1 _).1 hfirst).2⟩

end Production

end DeclLang
