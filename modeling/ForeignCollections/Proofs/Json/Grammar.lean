import Mathlib.Tactic.Common
import ForeignCollections.Json.Text

/-!
The grammar of JSON texts, apart from the readers. A string is related to the characters it stands
for, by whichever escapes it writes them; of any other value only that it is one is said, since
nothing is kept of it. White space may surround every part of a list in brackets, and a list
without entries may hold some too.
-/

namespace ForeignCollections.Json

def spaces : List Char := [' ', '\n', '\t', '\r']

def Space (w : List Char) : Prop := ∀ c ∈ w, c ∈ spaces

instance (w : List Char) : Decidable (Space w) := List.decidableBAll (· ∈ spaces) w

/-! ### Strings -/

def HexDigit (c : Char) (v : Nat) : Prop :=
  v < 16 ∧ (c = Nat.digitChar v ∨ c = (Nat.digitChar v).toUpper)

instance (c : Char) (v : Nat) : Decidable (HexDigit c v) := inferInstanceAs (Decidable (_ ∧ _))

inductive HexQuad : List Char → Nat → Prop where
  | mk {a b c d : Char} {i j k l : Nat} (first : HexDigit a i) (second : HexDigit b j)
      (third : HexDigit c k) (fourth : HexDigit d l) :
      HexQuad [a, b, c, d] (((i * 16 + j) * 16 + k) * 16 + l)

def shortEscapes : List (Char × Char) :=
  [('"', '"'), ('\\', '\\'), ('/', '/'), ('b', '\x08'), ('f', '\x0C'), ('n', '\n'), ('r', '\r'),
   ('t', '\t')]

/-- What follows the backslash of an escape: a letter, or the code of the character in UTF-16, of
one unit or of two. -/
inductive EscapeForm : List Char → Char → Prop where
  | short {l c : Char} (mem : (l, c) ∈ shortEscapes) : EscapeForm [l] c
  | unit {w : List Char} {c : Char} (code : HexQuad w c.toNat) : EscapeForm ('u' :: w) c
  | pair {high low : List Char} {c : Char} {n : Nat} (beyond : c.toNat = 0x10000 + n)
      (first : HexQuad high (0xD800 + n / 0x400)) (second : HexQuad low (0xDC00 + n % 0x400)) :
      EscapeForm ('u' :: (high ++ '\\' :: 'u' :: low)) c

/-- What follows the backslash of an escape that need not stand for a character, as half of a pair
does not. -/
inductive LooseEscape : List Char → Prop where
  | short {l c : Char} (mem : (l, c) ∈ shortEscapes) : LooseEscape [l]
  | unit {w : List Char} {n : Nat} (code : HexQuad w n) : LooseEscape ('u' :: w)

/-- What stands between the quotes of a string, and what it is read as: characters as they are,
unless they are controls, quotes or backslashes, and escapes. -/
inductive Between {α : Type} (plain : Char → α) (Escape : List Char → α → Prop) :
    List Char → List α → Prop where
  | nil : Between plain Escape [] []
  | plain {c : Char} {w : List Char} {as : List α} (notControl : 0x20 ≤ c.toNat)
      (notQuote : c ≠ '"') (notBackslash : c ≠ '\\') (rest : Between plain Escape w as) :
      Between plain Escape (c :: w) (plain c :: as)
  | escape {e w : List Char} {a : α} {as : List α} (escape : Escape e a)
      (rest : Between plain Escape w as) : Between plain Escape ('\\' :: (e ++ w)) (a :: as)

inductive TextForm : List Char → String → Prop where
  | mk {w : List Char} {s : String} (inner : Between id EscapeForm w s.toList) :
      TextForm ('"' :: (w ++ ['"'])) s

inductive LooseText : List Char → Prop where
  | mk {w : List Char} {us : List Unit}
      (inner : Between (fun _ => ()) (fun e _ => LooseEscape e) w us) :
      LooseText ('"' :: (w ++ ['"']))

/-- A string that stands for a text, or a `null` in its place. -/
inductive OptionalTextForm : List Char → Option String → Prop where
  | null : OptionalTextForm ['n', 'u', 'l', 'l'] none
  | text {w : List Char} {s : String} (text : TextForm w s) : OptionalTextForm w (some s)

/-! ### The way strings are written

A writer of strings uses one of the forms that the grammar allows, so no text is without one. -/

lemma between_writtenChar (c : Char) {w as : List Char} (h : Between id EscapeForm w as) :
    Between id EscapeForm (writtenChar c ++ w) (c :: as) := by
  unfold writtenChar
  split
  iterate 7 exact .escape (.short (by decide)) h
  split
  · next hc =>
    have hcode : ((0 * 16 + 0) * 16 + c.toNat / 16) * 16 + c.toNat % 16 = c.toNat := by omega
    have hquad : HexQuad ['0', '0', Nat.digitChar (c.toNat / 16), Nat.digitChar (c.toNat % 16)]
        (((0 * 16 + 0) * 16 + c.toNat / 16) * 16 + c.toNat % 16) :=
      .mk (by decide) (by decide) ⟨by omega, .inl rfl⟩ ⟨by omega, .inl rfl⟩
    rw [hcode] at hquad
    exact .escape (.unit hquad) h
  · next hc => exact .plain (Nat.not_lt.mp hc) (by assumption) (by assumption) h

lemma between_written (cs : List Char) : Between id EscapeForm (cs.flatMap writtenChar) cs := by
  induction cs with
  | nil => exact .nil
  | cons c cs ih =>
    rw [List.flatMap_cons]
    exact between_writtenChar c ih

lemma textForm_writtenText (s : String) : TextForm (writtenText s) s :=
  .mk (between_written s.toList)

/-! ### Numbers -/

def Digits (w : List Char) : Prop := w ≠ [] ∧ ∀ c ∈ w, c.isDigit = true

instance (w : List Char) : Decidable (Digits w) :=
  decidable_of_iff (w ≠ [] ∧ w.all Char.isDigit) (by simp [Digits])

inductive FractionForm : List Char → Prop where
  | none : FractionForm []
  | some {w : List Char} (digits : Digits w) : FractionForm ('.' :: w)

inductive ExponentForm : List Char → Prop where
  | none : ExponentForm []
  | some {mark : Char} {sign w : List Char} (marked : mark ∈ ['e', 'E'])
      (signed : sign ∈ [[], ['+'], ['-']]) (digits : Digits w) : ExponentForm (mark :: (sign ++ w))

/-- A number of any size. A leading zero stands alone. -/
inductive NumberForm : List Char → Prop where
  | mk {sign whole fraction exponent : List Char} (signed : sign ∈ [[], ['-']])
      (digits : Digits whole) (leading : whole.head? = some '0' → whole = ['0'])
      (fractional : FractionForm fraction) (scaled : ExponentForm exponent) :
      NumberForm (sign ++ (whole ++ (fraction ++ exponent)))

/-! ### Lists in brackets -/

/-- An entry of a list, with the white space on its two sides. -/
structure Piece where
  before : List Char
  body : List Char
  after : List Char

namespace Piece

def text (p : Piece) : List Char := p.before ++ p.body ++ p.after

def Spaced (p : Piece) : Prop := Space p.before ∧ Space p.after

instance (p : Piece) : Decidable p.Spaced := inferInstanceAs (Decidable (_ ∧ _))

end Piece

def bracketed (opening closing : Char) (ps : List Piece) (gap : List Char) : List Char :=
  opening :: ([','].intercalate (ps.map Piece.text) ++ gap ++ [closing])

structure Member where
  before : List Char
  key : List Char
  beforeColon : List Char
  afterColon : List Char
  value : List Char
  after : List Char

namespace Member

def assigned (m : Member) : List Char := m.beforeColon ++ ':' :: (m.afterColon ++ m.value)

def piece (m : Member) : Piece := ⟨m.before, m.key ++ m.assigned, m.after⟩

def Spaced (m : Member) : Prop := m.piece.Spaced ∧ Space m.beforeColon ∧ Space m.afterColon

instance (m : Member) : Decidable m.Spaced := inferInstanceAs (Decidable (_ ∧ _))

end Member

/-- Any value, nested to any depth. -/
inductive ValueForm : List Char → Prop where
  | null : ValueForm ['n', 'u', 'l', 'l']
  | true : ValueForm ['t', 'r', 'u', 'e']
  | false : ValueForm ['f', 'a', 'l', 's', 'e']
  | number {w : List Char} (number : NumberForm w) : ValueForm w
  | text {w : List Char} (text : LooseText w) : ValueForm w
  | array {ps : List Piece} {gap : List Char} (spaced : ∀ p ∈ ps, p.Spaced) (space : Space gap)
      (items : ∀ p ∈ ps, ValueForm p.body) : ValueForm (bracketed '[' ']' ps gap)
  | object {ms : List Member} {gap : List Char} (spaced : ∀ m ∈ ms, m.Spaced) (space : Space gap)
      (keys : ∀ m ∈ ms, LooseText m.key) (values : ∀ m ∈ ms, ValueForm m.value) :
      ValueForm (bracketed '{' '}' (ms.map Member.piece) gap)

inductive ArrayForm {α : Type} (Item : List Char → α → Prop) : List Char → List α → Prop where
  | mk {ps : List Piece} {gap : List Char} {as : List α} (spaced : ∀ p ∈ ps, p.Spaced)
      (space : Space gap) (items : List.Forall₂ Item (ps.map Piece.body) as) :
      ArrayForm Item (bracketed '[' ']' ps gap) as

inductive ObjectForm {α : Type} (Entry : Member → α → Prop) : List Char → List α → Prop where
  | mk {ms : List Member} {gap : List Char} {as : List α} (spaced : ∀ m ∈ ms, m.Spaced)
      (space : Space gap) (members : List.Forall₂ Entry ms as) :
      ObjectForm Entry (bracketed '{' '}' (ms.map Member.piece) gap) as

end ForeignCollections.Json
