import Mathlib.Data.Bool.AllAny
import ForeignCollections.Json.Parser
import ForeignCollections.Proofs.Json.Grammar

/-!
The readers of strings and numerals take off the front of a text what the grammar allows there, and
leave the rest as it is. A string comes out as the text it stands for, by whichever escapes it
writes it. What follows must not go on with a numeral, since a numeral ends where no more of it
comes; otherwise it does not matter.
-/

namespace ForeignCollections.Json

/-- This value is taken, and these characters are left. -/
def Takes {α : Type} {n : Nat} (x : Except Fault (Taken α n)) (a : α) (rest : List Char) : Prop :=
  ∃ fits, x = .ok ⟨a, rest, fits⟩

namespace Takes

variable {α β : Type} {m n : Nat} {x : Except Fault (Taken α n)} {a : α} {rest : List Char}

lemma ok (fits : rest.length < n) : Takes (.ok ⟨a, rest, fits⟩) a rest := ⟨fits, rfl⟩

lemma of_eq_ok {y : Except Fault β} {b : β} {k : β → Except Fault (Taken α n)} (h : y = .ok b)
    (hk : Takes (k b) a rest) : Takes (y >>= k) a rest := by
  rw [h]
  exact hk

lemma map (h : Takes x a rest) (f : α → β) : Takes (x.map (Taken.map f)) (f a) rest := by
  obtain ⟨fits, rfl⟩ := h
  exact ok fits

lemma widen (h : Takes x a rest) (hle : n ≤ m) : Takes (x.map (Taken.widen hle)) a rest := by
  obtain ⟨fits, rfl⟩ := h
  exact ok (Nat.lt_of_lt_of_le fits hle)

lemma map_widen (h : Takes x a rest) (f : α → β) (hle : n ≤ m) :
    Takes (x.map fun t => (t.map f).widen hle) (f a) rest := by
  obtain ⟨fits, rfl⟩ := h
  exact ok (Nat.lt_of_lt_of_le fits hle)

lemma bind {b : β} {rest' : List Char} {k : Taken α n → Except Fault (Taken β m)}
    (h : Takes x a rest) (hk : ∀ fits, Takes (k ⟨a, rest, fits⟩) b rest') :
    Takes (x >>= k) b rest' := by
  obtain ⟨fits, rfl⟩ := h
  exact hk fits

end Takes

/-- A numeral does not go on here. -/
def Stops (rest : List Char) : Prop :=
  ∀ c ∈ rest.head?, c.isDigit = false ∧ c ∉ ['.', 'e', 'E']

/-- The reader takes these characters off the front of a text, and makes this of them. -/
def Reads {α : Type} (r : Reader α) (w : List Char) (a : α) : Prop :=
  ∀ rest, Stops rest → Takes (r (w ++ rest)) a rest

def ReadsSpaced {α : Type} (r : Reader α) (w : List Char) (a : α) : Prop :=
  ∀ gap, Space gap → Reads r (gap ++ w) a

/-! ### White space and the characters around it -/

def closers : List Char := [']', '}']

/-- What may follow an entry of a list, and starts none. -/
def separators : List Char := spaces ++ ',' :: closers

lemma mem_separators_of_space {c : Char} (h : c ∈ spaces) : c ∈ separators :=
  List.mem_append_left _ h

lemma mem_separators_of_closer {c : Char} (h : c ∈ closers) : c ∈ separators :=
  List.mem_append_right _ (List.mem_cons_of_mem _ h)

lemma isSpace_iff {c : Char} : isSpace c = true ↔ c ∈ spaces := by
  simp [isSpace, spaces, or_assoc]

lemma space_nil : Space [] := fun _ hc => nomatch hc

lemma skipSpace_append {gap w : List Char} (h : Space gap) : skipSpace (gap ++ w) = skipSpace w :=
  List.dropWhile_append_of_pos fun c hc => isSpace_iff.mpr (h c hc)

lemma skipSpace_of_space {w : List Char} (h : Space w) : skipSpace w = [] := by
  rw [← List.append_nil w, skipSpace_append h]
  rfl

def Starts (w : List Char) : Prop := ∃ c rest, w = c :: rest ∧ c ∉ separators

lemma starts_cons {c : Char} (rest : List Char) (h : c ∉ separators) : Starts (c :: rest) :=
  ⟨c, rest, rfl, h⟩

lemma Starts.append {w : List Char} (h : Starts w) (rest : List Char) : Starts (w ++ rest) := by
  obtain ⟨c, w, rfl, hc⟩ := h
  exact starts_cons (w ++ rest) hc

lemma skipSpace_cons {c : Char} (w : List Char) (h : c ∉ spaces) : skipSpace (c :: w) = c :: w :=
  List.dropWhile_cons_of_neg (mt isSpace_iff.mp h)

lemma skipSpace_of_starts {w : List Char} (h : Starts w) : skipSpace w = w := by
  obtain ⟨c, w, rfl, hc⟩ := h
  exact skipSpace_cons w (mt mem_separators_of_space hc)

lemma stops_nil : Stops [] := by simp [Stops]

lemma stops_cons {c : Char} (rest : List Char) (h : c ∈ separators) : Stops (c :: rest) := by
  have hall : ∀ c ∈ separators, c.isDigit = false ∧ c ∉ ['.', 'e', 'E'] :=
    List.all_iff_forall_prop.mp (by decide)
  rintro d ⟨⟩
  exact hall c h

lemma Stops.space_append {gap rest : List Char} (hgap : Space gap) (h : Stops rest) :
    Stops (gap ++ rest) := by
  cases gap with
  | nil => exact h
  | cons c gap => exact stops_cons _ (mem_separators_of_space (hgap c List.mem_cons_self))

/-! ### Readers made of readers -/

section Readers

variable {α β : Type} {r : Reader α} {w : List Char} {a : α}

lemma Reads.map (h : Reads r w a) (f : α → β) : Reads (r.map f) w (f a) :=
  fun rest hs => (h rest hs).map f

lemma takes_spaced {input rest : List Char} (h : Takes (r (skipSpace input)) a rest) :
    Takes (r.spaced input) a rest := h.widen _

lemma Reads.spaced (h : Reads r w a) (hw : Starts w) : ReadsSpaced r.spaced w a := by
  intro gap hgap rest hs
  refine takes_spaced ?_
  rw [List.append_assoc, skipSpace_append hgap, skipSpace_of_starts (hw.append rest)]
  exact h rest hs

lemma ReadsSpaced.reads (h : ReadsSpaced r w a) : Reads r w a := h [] space_nil

lemma ReadsSpaced.map (h : ReadsSpaced r w a) (f : α → β) : ReadsSpaced (r.map f) w (f a) :=
  fun gap hgap => (h gap hgap).map f

lemma takes_literal (es rest : List Char) : Takes (literal es (es ++ rest)) () rest := by
  induction es with
  | nil => exact .ok _
  | cons e es ih =>
    rw [List.cons_append, literal, if_pos rfl]
    exact ih.widen _

end Readers

/-! ### Strings -/

lemma hexValue?_of_hexDigit {c : Char} {v : Nat} (h : HexDigit c v) : hexValue? c = some v := by
  have hall : ∀ v < 16, hexValue? (Nat.digitChar v) = some v ∧
      hexValue? (Nat.digitChar v).toUpper = some v := by decide
  obtain ⟨hv, rfl | rfl⟩ := h
  · exact (hall v hv).1
  · exact (hall v hv).2

lemma takes_hexQuad {w : List Char} {n : Nat} (h : HexQuad w n) (rest : List Char) :
    Takes (hexQuad (w ++ rest)) n rest := by
  cases h with
  | mk first second third fourth =>
    simp only [List.cons_append, List.nil_append, hexQuad, hexValue?_of_hexDigit first,
      hexValue?_of_hexDigit second, hexValue?_of_hexDigit third, hexValue?_of_hexDigit fourth]
    exact .ok _

lemma letterEscape?_of_mem {l c : Char} (h : (l, c) ∈ shortEscapes) : letterEscape? l = some c := by
  have hall : ∀ p ∈ shortEscapes, letterEscape? p.1 = some p.2 :=
    List.all_iff_forall_prop.mp (by decide)
  exact hall _ h

/-- The codes of characters leave out the surrogates. -/
lemma code_valid (c : Char) : c.toNat < 0xD800 ∨ 0xDFFF < c.toNat ∧ c.toNat < 0x110000 := c.valid

lemma not_surrogate (c : Char) :
    isLowSurrogate c.toNat = false ∧ isHighSurrogate c.toNat = false := by
  have hc := code_valid c
  simp only [isHighSurrogate, isLowSurrogate, Bool.and_eq_false_iff, decide_eq_false_iff_not]
  omega

lemma takes_unicodeEscape_unit {w : List Char} {c : Char} (h : HexQuad w c.toNat)
    (rest : List Char) : Takes (unicodeEscape (w ++ rest)) c rest := by
  refine (takes_hexQuad h rest).bind fun fits => ?_
  obtain ⟨hlow, hhigh⟩ := not_surrogate c
  simp only [hlow, hhigh, Bool.false_eq_true, if_false, Char.ofNat_toNat]
  exact .ok _

lemma takes_unicodeEscape_pair {high low : List Char} {c : Char} {n : Nat}
    (hc : c.toNat = 0x10000 + n) (hhigh : HexQuad high (0xD800 + n / 0x400))
    (hlow : HexQuad low (0xDC00 + n % 0x400)) (rest : List Char) :
    Takes (unicodeEscape (high ++ '\\' :: 'u' :: (low ++ rest))) c rest := by
  have hn : n < 0x100000 := by
    have hvalid := code_valid c
    omega
  have hfirst : isLowSurrogate (0xD800 + n / 0x400) = false ∧
      isHighSurrogate (0xD800 + n / 0x400) = true := by
    simp only [isHighSurrogate, isLowSurrogate, Bool.and_eq_false_iff, Bool.and_eq_true,
      decide_eq_true_eq, decide_eq_false_iff_not]
    omega
  have hsecond : isLowSurrogate (0xDC00 + n % 0x400) = true := by
    simp only [isLowSurrogate, Bool.and_eq_true, decide_eq_true_eq]
    omega
  have hpoint : 0x10000 + (0xD800 + n / 0x400 - 0xD800) * 0x400 + (0xDC00 + n % 0x400 - 0xDC00) =
      c.toNat := by omega
  refine (takes_hexQuad hhigh _).bind fun fits => ?_
  simp only [hfirst, Bool.false_eq_true, if_false, if_true]
  refine (takes_literal ['\\', 'u'] _).bind fun fits => ?_
  refine (takes_hexQuad hlow rest).bind fun fits => ?_
  simp only [hsecond, if_true, hpoint, Char.ofNat_toNat]
  exact .ok _

lemma takes_escapeWith_short {α : Type} {letter : Char → α} {unicode : Reader α} {l c : Char}
    (h : (l, c) ∈ shortEscapes) (rest : List Char) :
    Takes (escapeWith letter unicode (l :: rest)) (letter c) rest := by
  simp only [escapeWith, letterEscape?_of_mem h]
  exact .ok _

lemma takes_escapeWith_unicode {α : Type} {letter : Char → α} {unicode : Reader α} {a : α}
    {w rest : List Char} (h : Takes (unicode w) a rest) :
    Takes (escapeWith letter unicode ('u' :: w)) a rest := by
  have hu : letterEscape? 'u' = none := rfl
  simp only [escapeWith, hu, if_true]
  exact h.widen _

lemma takes_escape {w : List Char} {c : Char} (h : EscapeForm w c) (rest : List Char) :
    Takes (escapeWith id unicodeEscape (w ++ rest)) c rest := by
  cases h with
  | short mem => exact takes_escapeWith_short mem rest
  | unit code => exact takes_escapeWith_unicode (takes_unicodeEscape_unit code rest)
  | pair beyond first second =>
    rw [List.cons_append, List.append_assoc]
    exact takes_escapeWith_unicode (takes_unicodeEscape_pair beyond first second rest)

lemma takes_looseEscape {w : List Char} (h : LooseEscape w) (rest : List Char) :
    Takes (escapeWith (fun _ => ()) (hexQuad.map fun _ => ()) (w ++ rest)) () rest := by
  cases h with
  | short mem => exact takes_escapeWith_short mem rest
  | unit code => exact takes_escapeWith_unicode ((takes_hexQuad code rest).map _)

lemma takes_charactersFrom {α : Type} {plain : Char → α} {Escape : List Char → α → Prop}
    {escape : Reader α}
    (hescape : ∀ e a, Escape e a → ∀ rest, Takes (escape (e ++ rest)) a rest)
    {w : List Char} {as : List α} (h : Between plain Escape w as) (found : List α)
    (rest : List Char) :
    Takes (charactersFrom plain escape found (w ++ '"' :: rest)) (found.reverse ++ as) rest := by
  induction h generalizing found with
  | nil =>
    rw [List.nil_append, charactersFrom, if_pos rfl, List.append_nil]
    exact .ok _
  | @plain c w as notControl notQuote notBackslash _ ih =>
    rw [List.cons_append, charactersFrom, if_neg notQuote, if_neg notBackslash,
      if_neg (Nat.not_lt.mpr notControl)]
    have h := ih (plain c :: found)
    rw [List.reverse_cons, List.append_assoc] at h
    exact h.widen _
  | @escape e w a as he _ ih =>
    rw [List.cons_append, List.append_assoc, charactersFrom, if_neg (by decide), if_pos rfl]
    refine (hescape e a he _).bind fun fits => ?_
    refine (ih (a :: found)).bind fun fits => ?_
    rw [List.reverse_cons, List.append_assoc]
    exact .ok _

/-- The reader, which starts behind the opening quote, takes a string and makes this of it. -/
def ReadsQuoted {α : Type} (r : Reader α) (w : List Char) (a : α) : Prop :=
  ∃ v, w = '"' :: (v ++ ['"']) ∧ ∀ rest, Takes (r (v ++ '"' :: rest)) a rest

lemma ReadsQuoted.starts {α : Type} {r : Reader α} {w : List Char} {a : α}
    (h : ReadsQuoted r w a) : Starts w := by
  obtain ⟨v, rfl, -⟩ := h
  exact starts_cons _ (by decide)

lemma TextForm.readsQuoted {w : List Char} {s : String} (h : TextForm w s) :
    ReadsQuoted Reader.text w s := by
  cases h with
  | @mk v s inner =>
    refine ⟨v, rfl, fun rest => ?_⟩
    have ht := (takes_charactersFrom (fun _ _ => takes_escape) inner [] rest).map String.ofList
    rwa [List.reverse_nil, List.nil_append, String.ofList_toList] at ht

lemma LooseText.readsQuoted {w : List Char} (h : LooseText w) :
    ReadsQuoted Reader.skippedText w () := by
  cases h with
  | @mk v us inner =>
    exact ⟨v, rfl, fun rest =>
      (takes_charactersFrom (fun _ _ => takes_looseEscape) inner [] rest).map _⟩

/-! ### Numerals -/

lemma Digits.unsigned {w : List Char} (h : Digits w) (rest : List Char) :
    (∀ left, w ++ rest ≠ '+' :: left) ∧ ∀ left, w ++ rest ≠ '-' :: left := by
  obtain ⟨c, ds, rfl⟩ := List.exists_cons_of_ne_nil h.1
  have hc := h.2 c List.mem_cons_self
  constructor
  · rintro left ⟨⟩
    exact absurd hc (by decide)
  · rintro left ⟨⟩
    exact absurd hc (by decide)

lemma takes_digits (cut : Fault) {w rest : List Char} (h : Digits w)
    (hrest : ∀ c ∈ rest.head?, c.isDigit = false) : Takes (digits cut (w ++ rest)) w rest := by
  obtain ⟨hne, hw⟩ := h
  obtain ⟨c, ds, rfl⟩ := List.exists_cons_of_ne_nil hne
  obtain ⟨hc, hds⟩ := List.forall_mem_cons.mp hw
  have hend : rest.takeWhile Char.isDigit = [] ∧ rest.dropWhile Char.isDigit = rest := by
    cases rest with
    | nil => exact ⟨rfl, rfl⟩
    | cons d rest =>
      have hd : ¬ d.isDigit = true := by simpa using hrest
      exact ⟨List.takeWhile_cons_of_neg hd, List.dropWhile_cons_of_neg hd⟩
  simp only [List.cons_append, digits, hc, if_true, List.takeWhile_append_of_pos hds,
    List.dropWhile_append_of_pos hds, hend, List.append_nil]
  exact .ok _

lemma takes_wholeDigits (cut : Fault) {w rest : List Char} (h : Digits w)
    (hlead : w.head? = some '0' → w = ['0']) (hrest : ∀ c ∈ rest.head?, c.isDigit = false) :
    Takes (wholeDigits cut (w ++ rest)) w rest := by
  refine (takes_digits cut h hrest).bind fun fits => ?_
  dsimp only
  split
  · exact absurd (hlead rfl) (by simp)
  · exact .ok _

lemma takes_fractionPart (cut : Fault) {w rest : List Char} (h : FractionForm w)
    (hrest : ∀ c ∈ rest.head?, c.isDigit = false ∧ c ≠ '.') :
    ∃ v, Takes (fractionPart cut (w ++ rest)) v rest := by
  cases h with
  | none =>
    have hpoint : ∀ left, rest ≠ '.' :: left := by
      rintro left rfl
      exact (hrest '.' rfl).2 rfl
    rw [List.nil_append, fractionPart]
    · exact ⟨none, .ok _⟩
    · exact hpoint
  | @some ds digits =>
    refine ⟨some ds, (takes_digits cut digits fun c hc => (hrest c hc).1).bind fun fits => ?_⟩
    exact .ok _

lemma takes_signedDigits (cut : Fault) {sign w rest : List Char} (hsign : sign ∈ [[], ['+'], ['-']])
    (h : Digits w) (hrest : ∀ c ∈ rest.head?, c.isDigit = false) :
    ∃ v, Takes (signedDigits cut (sign ++ (w ++ rest))) v rest := by
  have hd := takes_digits cut h hrest
  simp only [List.mem_cons, List.not_mem_nil, or_false] at hsign
  rcases hsign with rfl | rfl | rfl
  · obtain ⟨hplus, hminus⟩ := h.unsigned rest
    rw [List.nil_append, signedDigits]
    · exact ⟨_, hd.map (false, ·)⟩
    · exact hminus
    · exact hplus
  · exact ⟨_, (hd.map (false, ·)).widen _⟩
  · exact ⟨_, (hd.map (true, ·)).widen _⟩

lemma takes_exponentPart (cut : Fault) {w rest : List Char} (h : ExponentForm w)
    (hrest : Stops rest) : ∃ v, Takes (exponentPart cut (w ++ rest)) v rest := by
  cases h with
  | none =>
    refine ⟨none, ?_⟩
    cases rest with
    | nil => exact .ok _
    | cons c rest =>
      have hc := (hrest c rfl).2
      simp only [List.mem_cons, not_or] at hc
      rw [List.nil_append, exponentPart, if_neg (by tauto)]
      exact .ok _
  | @some mark sign ds marked signed digits =>
    obtain ⟨v, hv⟩ := takes_signedDigits cut signed digits fun c hc => (hrest c hc).1
    refine ⟨some v, ?_⟩
    rw [List.cons_append, List.append_assoc, exponentPart, if_pos (by simpa using marked)]
    exact hv.bind fun fits => .ok _

lemma ExponentForm.head_append {w rest : List Char} (h : ExponentForm w) (hrest : Stops rest) :
    ∀ c ∈ (w ++ rest).head?, c.isDigit = false ∧ c ≠ '.' := by
  cases h with
  | none =>
    intro c hc
    obtain ⟨hdigit, hmarks⟩ := hrest c hc
    exact ⟨hdigit, List.ne_of_not_mem_cons hmarks⟩
  | @some mark sign ds marked signed digits =>
    have hall : ∀ c ∈ ['e', 'E'], c.isDigit = false ∧ c ≠ '.' :=
      List.all_iff_forall_prop.mp (by decide)
    rintro c ⟨⟩
    exact hall mark marked

lemma FractionForm.head_append {w rest : List Char} (h : FractionForm w)
    (hrest : ∀ c ∈ rest.head?, c.isDigit = false ∧ c ≠ '.') :
    ∀ c ∈ (w ++ rest).head?, c.isDigit = false := by
  cases h with
  | none => exact fun c hc => (hrest c hc).1
  | some digits =>
    rintro c ⟨⟩
    rfl

lemma takes_numeral (cut : Fault) {w rest : List Char} (h : NumberForm w) (hrest : Stops rest) :
    ∃ n, Takes (numeral cut (w ++ rest)) n rest := by
  cases h with
  | @mk sign whole fraction exponent signed digits leading fractional scaled =>
    have hexponent := scaled.head_append hrest
    obtain ⟨f, hf⟩ := takes_fractionPart cut fractional hexponent
    obtain ⟨e, he⟩ := takes_exponentPart cut scaled hrest
    have hunsigned : ∀ negative, Takes
        (unsigned cut negative (whole ++ (fraction ++ (exponent ++ rest))))
        ⟨negative, whole, f, e⟩ rest := fun negative =>
      (takes_wholeDigits cut digits leading (fractional.head_append hexponent)).bind fun _ =>
        hf.bind fun _ => he.bind fun _ => .ok _
    rw [List.append_assoc, List.append_assoc, List.append_assoc]
    simp only [List.mem_cons, List.not_mem_nil, or_false] at signed
    rcases signed with rfl | rfl
    · rw [List.nil_append, numeral]
      · exact ⟨_, hunsigned false⟩
      · exact (digits.unsigned _).2
    · exact ⟨_, (hunsigned true).widen _⟩

end ForeignCollections.Json
