import ForeignCollections.Json.Reader

/-!
The strings of a JSON text. A string ends at its closing quote; in it a backslash starts an
escape and control characters are not allowed. A character beyond the first plane may be
escaped as a pair of surrogates, high before low; a surrogate that stands alone is refused
where the text is wanted, and let pass where it is only skipped.
-/

namespace ForeignCollections.Json

def hexValue? (c : Char) : Option Nat :=
  if c.isDigit then some (c.toNat - '0'.toNat)
  else if 'a' ≤ c ∧ c ≤ 'f' then some (c.toNat - 'a'.toNat + 10)
  else if 'A' ≤ c ∧ c ≤ 'F' then some (c.toNat - 'A'.toNat + 10)
  else none

/-- Four hexadecimal digits. With less than four bytes left the text has ended, whatever the
bytes are. -/
def hexQuad : Reader Nat
  | a :: b :: c :: d :: rest =>
    match hexValue? a, hexValue? b, hexValue? c, hexValue? d with
    | some a, some b, some c, some d =>
      .ok ⟨((a * 16 + b) * 16 + c) * 16 + d, rest, by simp only [List.length_cons]; omega⟩
    | _, _, _, _ => .error .malformed
  | short => .error (if (String.ofList short).utf8ByteSize < 4 then .ended else .malformed)

def isHighSurrogate (n : Nat) : Bool := 0xD800 ≤ n && n ≤ 0xDBFF

def isLowSurrogate (n : Nat) : Bool := 0xDC00 ≤ n && n ≤ 0xDFFF

/-- The character of a code point given by four digits, or by two surrogates. -/
def unicodeEscape : Reader Char := fun input => do
  let high ← hexQuad input
  have := high.fits
  if isLowSurrogate high.value then .error .malformed
  else if isHighSurrogate high.value then
    let mark ← literal ['\\', 'u'] high.rest
    have := mark.fits
    let low ← hexQuad mark.rest
    have := low.fits
    if isLowSurrogate low.value then
      let point := 0x10000 + (high.value - 0xD800) * 0x400 + (low.value - 0xDC00)
      .ok ⟨Char.ofNat point, low.rest, by omega⟩
    else .error .malformed
  else .ok ⟨Char.ofNat high.value, high.rest, by omega⟩

def letterEscape? : Char → Option Char
  | '"' => some '"'
  | '\\' => some '\\'
  | '/' => some '/'
  | 'b' => some '\x08'
  | 'f' => some '\x0C'
  | 'n' => some '\n'
  | 'r' => some '\r'
  | 't' => some '\t'
  | _ => none

/-- An escape, its backslash already taken; `unicode` reads what follows a `u`. -/
def escapeWith {α : Type} (letter : Char → α) (unicode : Reader α) : Reader α
  | [] => .error .ended
  | c :: rest =>
    match letterEscape? c with
    | some d => .ok ⟨letter d, rest, length_lt_succ rest⟩
    | none =>
      if c = 'u' then (unicode rest).map (Taken.widen (length_le_succ rest)) else .error .malformed

/-- The characters of a string up to its closing quote, the opening one already taken. -/
def charactersFrom {α : Type} (plain : Char → α) (escape : Reader α) (found : List α)
    (input : List Char) : Except Fault (Taken (List α) input.length) :=
  match input with
  | [] => .error .ended
  | c :: rest =>
    if c = '"' then .ok ⟨found.reverse, rest, length_lt_succ rest⟩
    else if c = '\\' then do
      let e ← escape rest
      have := e.fits
      let t ← charactersFrom plain escape (e.value :: found) e.rest
      .ok (t.widen (by simp only [List.length_cons]; omega))
    else if c.toNat < 0x20 then .error .malformed
    else
      (charactersFrom plain escape (plain c :: found) rest).map
        (Taken.widen (length_le_succ rest))
termination_by input.length
decreasing_by all_goals simp only [List.length_cons]; omega

def Reader.text : Reader String :=
  Reader.map String.ofList (charactersFrom id (escapeWith id unicodeEscape) [])

/-- A string that is only skipped: its escapes need not make sense together. -/
def Reader.skippedText : Reader Unit :=
  Reader.map (fun _ => ())
    (charactersFrom (fun _ => ()) (escapeWith (fun _ => ()) (hexQuad.map fun _ => ())) [])

def writtenChar (c : Char) : List Char :=
  match c with
  | '"' => ['\\', '"']
  | '\\' => ['\\', '\\']
  | '\x08' => ['\\', 'b']
  | '\x0C' => ['\\', 'f']
  | '\n' => ['\\', 'n']
  | '\r' => ['\\', 'r']
  | '\t' => ['\\', 't']
  | c =>
    if c.toNat < 0x20 then
      ['\\', 'u', '0', '0', Nat.digitChar (c.toNat / 16), Nat.digitChar (c.toNat % 16)]
    else [c]

/-- A string with its quotes. Only what must be escaped is. -/
def writtenText (s : String) : List Char := '"' :: (s.toList.flatMap writtenChar ++ ['"'])

end ForeignCollections.Json
