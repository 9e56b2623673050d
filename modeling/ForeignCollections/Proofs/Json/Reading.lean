import Mathlib.Data.List.Forall2
import ForeignCollections.Proofs.Json.Scanning

/-!
Lists in brackets are read as the grammar has them. A list is described once for all kinds of
entries: it is read entry by entry, and each entry brings the state that the next one starts from.
Main statement: a value that is skipped is passed over as a whole, however deep it is nested,
because its own readers pass over its parts (`readsSpaced_skipped`).
-/

namespace ForeignCollections.Json

/-! ### Lists in brackets -/

lemma length_le_of_skipSpace {input w : List Char} (h : skipSpace input = w) :
    w.length ≤ input.length := h ▸ length_skipSpace_le input

lemma next_closed {close : Char} {first : Bool} {input rest : List Char}
    (h : skipSpace input = close :: rest) :
    ∃ fits, next close first input = .ok (.closed rest fits) := by
  refine ⟨length_le_of_skipSpace h, ?_⟩
  unfold next
  split
  · next hnil => exact nomatch hnil.symm.trans h
  · next hcons =>
    obtain ⟨rfl, rfl⟩ := List.cons.inj (hcons.symm.trans h)
    exact if_pos rfl

lemma next_first {close : Char} {input start : List Char} (h : skipSpace input = start)
    (hstart : ∃ c left, start = c :: left ∧ c ≠ close) :
    ∃ fits, next close true input = .ok (.entry start fits) := by
  obtain ⟨c, left, rfl, hc⟩ := hstart
  refine ⟨length_le_of_skipSpace h, ?_⟩
  unfold next
  split
  · next hnil => exact nomatch hnil.symm.trans h
  · next hcons =>
    obtain ⟨rfl, rfl⟩ := List.cons.inj (hcons.symm.trans h)
    rw [if_neg hc, if_pos rfl]

lemma next_further {close : Char} {input rest start : List Char}
    (h : skipSpace input = ',' :: rest) (hclose : ',' ≠ close) (hskip : skipSpace rest = start)
    (hstart : ∃ c left, start = c :: left ∧ c ≠ close) :
    ∃ fits, next close false input = .ok (.entry start fits) := by
  obtain ⟨c, left, rfl, hc⟩ := hstart
  have hrest := length_le_of_skipSpace h
  refine ⟨Nat.le_trans (length_le_of_skipSpace hskip) (Nat.le_of_succ_le hrest), ?_⟩
  unfold next
  split
  · next hnil => exact nomatch hnil.symm.trans h
  · next hcons =>
    obtain ⟨rfl, rfl⟩ := List.cons.inj (hcons.symm.trans h)
    rw [if_neg hclose, if_neg (by decide), if_pos rfl]
    split
    · next hnil => exact nomatch hnil.symm.trans hskip
    · next hcons' =>
      obtain ⟨rfl, rfl⟩ := List.cons.inj (hcons'.symm.trans hskip)
      exact if_neg hc

/-- The text of a list behind its opening bracket. -/
def opened (closing : Char) (ps : List Piece) (gap rest : List Char) : List Char :=
  [','].intercalate (ps.map Piece.text) ++ (gap ++ closing :: rest)

/-- The text of a list behind one of its entries. -/
def continued (closing : Char) (ps : List Piece) (gap rest : List Char) : List Char :=
  (ps.flatMap fun p => ',' :: p.text) ++ (gap ++ closing :: rest)

lemma bracketed_append (opening closing : Char) (ps : List Piece) (gap rest : List Char) :
    bracketed opening closing ps gap ++ rest = opening :: opened closing ps gap rest := by
  simp [bracketed, opened]

lemma starts_bracketed {opening : Char} (h : opening ∈ ['[', '{']) (closing : Char)
    (ps : List Piece) (gap : List Char) : Starts (bracketed opening closing ps gap) := by
  have hall : ∀ c ∈ ['[', '{'], c ∉ separators := List.all_iff_forall_prop.mp (by decide)
  exact starts_cons _ (hall opening h)

lemma intercalate_texts (w : List Char) (ps : List Piece) :
    [','].intercalate (w :: ps.map Piece.text) = w ++ ps.flatMap fun p => ',' :: p.text := by
  induction ps generalizing w with
  | nil => simp
  | cons p ps ih =>
    rw [List.map_cons, List.intercalate_cons_cons, ih, List.flatMap_cons]
    simp

lemma opened_cons (closing : Char) (p : Piece) (ps : List Piece) (gap rest : List Char) :
    opened closing (p :: ps) gap rest =
      p.before ++ (p.body ++ (p.after ++ continued closing ps gap rest)) := by
  rw [opened, List.map_cons, intercalate_texts, continued, Piece.text]
  simp

lemma continued_nil (closing : Char) (gap rest : List Char) :
    continued closing [] gap rest = gap ++ closing :: rest := rfl

lemma continued_cons (closing : Char) (p : Piece) (ps : List Piece) (gap rest : List Char) :
    continued closing (p :: ps) gap rest =
      ',' :: (p.before ++ (p.body ++ (p.after ++ continued closing ps gap rest))) := by
  simp [continued, Piece.text]

lemma length_body_lt_continued (closing : Char) {p : Piece} {ps : List Piece} (hp : p ∈ ps)
    (gap rest : List Char) : p.body.length < (continued closing ps gap rest).length := by
  induction ps with
  | nil => exact nomatch hp
  | cons q ps ih =>
    simp only [continued_cons, List.length_cons, List.length_append]
    rcases List.mem_cons.mp hp with rfl | hp
    · omega
    · have := ih hp
      omega

lemma length_body_lt (opening closing : Char) {p : Piece} {ps : List Piece} (gap : List Char)
    (hp : p ∈ ps) : p.body.length < (bracketed opening closing ps gap).length := by
  rw [← List.append_nil (bracketed opening closing ps gap), bracketed_append]
  cases ps with
  | nil => exact nomatch hp
  | cons q ps =>
    simp only [opened_cons, List.length_cons, List.length_append]
    rcases List.mem_cons.mp hp with rfl | hp
    · omega
    · have := length_body_lt_continued closing hp gap []
      omega

/-- The entries are set apart from each other and from the closing bracket. -/
structure Listed (closing : Char) (ps : List Piece) (gap : List Char) : Prop where
  closes : closing ∈ closers
  spaced : ∀ p ∈ ps, p.Spaced
  starts : ∀ p ∈ ps, Starts p.body
  space : Space gap

namespace Listed

variable {closing : Char} {p : Piece} {ps : List Piece} {gap after : List Char}

lemma tail (h : Listed closing (p :: ps) gap) : Listed closing ps gap where
  closes := h.closes
  spaced := fun q hq => h.spaced q (List.mem_cons_of_mem p hq)
  starts := fun q hq => h.starts q (List.mem_cons_of_mem p hq)
  space := h.space

lemma next_closing (h : Listed closing [] gap) (hafter : Space after) (first : Bool)
    (rest : List Char) :
    ∃ fits, next closing first (after ++ (gap ++ closing :: rest)) = .ok (.closed rest fits) := by
  have hall : ∀ c ∈ closers, c ∉ spaces := List.all_iff_forall_prop.mp (by decide)
  refine next_closed ?_
  rw [skipSpace_append hafter, skipSpace_append h.space,
    skipSpace_cons rest (hall closing h.closes)]

lemma starts_entry (h : Listed closing (p :: ps) gap) (rest : List Char) :
    skipSpace (p.before ++ (p.body ++ rest)) = p.body ++ rest ∧
      ∃ c left, p.body ++ rest = c :: left ∧ c ≠ closing := by
  have hstarts := (h.starts p List.mem_cons_self).append rest
  constructor
  · rw [skipSpace_append (h.spaced p List.mem_cons_self).1, skipSpace_of_starts hstarts]
  · obtain ⟨c, left, hleft, hc⟩ := hstarts
    refine ⟨c, left, hleft, ?_⟩
    rintro rfl
    exact hc (mem_separators_of_closer h.closes)

lemma next_opened (h : Listed closing (p :: ps) gap) (rest : List Char) :
    ∃ fits, next closing true (opened closing (p :: ps) gap rest) =
      .ok (.entry (p.body ++ (p.after ++ continued closing ps gap rest)) fits) := by
  rw [opened_cons]
  obtain ⟨hskip, hstart⟩ := h.starts_entry (p.after ++ continued closing ps gap rest)
  exact next_first hskip hstart

lemma next_continued (h : Listed closing (p :: ps) gap) (hafter : Space after)
    (rest : List Char) :
    ∃ fits, next closing false (after ++ continued closing (p :: ps) gap rest) =
      .ok (.entry (p.body ++ (p.after ++ continued closing ps gap rest)) fits) := by
  have hall : ∀ c ∈ closers, ',' ≠ c := List.all_iff_forall_prop.mp (by decide)
  rw [continued_cons]
  obtain ⟨hskip, hstart⟩ := h.starts_entry (p.after ++ continued closing ps gap rest)
  refine next_further ?_ (hall closing h.closes) hskip hstart
  rw [skipSpace_append hafter, skipSpace_cons _ (by decide)]

lemma stops_continued (h : Listed closing ps gap) (hafter : Space after) (rest : List Char) :
    Stops (after ++ continued closing ps gap rest) := by
  refine Stops.space_append hafter ?_
  cases ps with
  | nil =>
    rw [continued_nil]
    exact Stops.space_append h.space (stops_cons rest (mem_separators_of_closer h.closes))
  | cons p ps =>
    rw [continued_cons]
    exact stops_cons _ (by decide)

end Listed

/-- A run over the entries of a list, from one state to another. -/
inductive Run {σ : Type} (entry : σ → Reader σ) : σ → List (List Char) → σ → Prop where
  | nil (s : σ) : Run entry s [] s
  | cons {s s' s'' : σ} {w : List Char} {ws : List (List Char)} (first : Reads (entry s) w s')
      (others : Run entry s' ws s'') : Run entry s (w :: ws) s''

section Entries

variable {σ : Type} {entry : σ → Reader σ} {close : Char} {first : Bool} {s s' s'' : σ}
  {input start left rest : List Char}

lemma takes_entries_closed {fits : rest.length < input.length}
    (h : next close first input = .ok (.closed rest fits)) :
    Takes (entries close entry first s input) s rest := by
  rw [entries, h]
  exact .ok fits

lemma takes_entries_entry {fits : start.length ≤ input.length}
    (h : next close first input = .ok (.entry start fits)) (hentry : Takes (entry s start) s' left)
    (hothers : Takes (entries close entry false s' left) s'' rest) :
    Takes (entries close entry first s input) s'' rest := by
  rw [entries, h]
  exact hentry.bind fun _ => hothers.bind fun _ => .ok _

lemma takes_entries_continued {closing : Char} {ps : List Piece} {gap after : List Char}
    (h : Listed closing ps gap) (hrun : Run entry s (ps.map Piece.body) s') (hafter : Space after)
    (rest : List Char) :
    Takes (entries closing entry false s (after ++ continued closing ps gap rest)) s' rest := by
  induction ps generalizing s after with
  | nil =>
    cases hrun
    obtain ⟨fits, hn⟩ := h.next_closing hafter false rest
    exact takes_entries_closed hn
  | cons p ps ih =>
    cases hrun with
    | cons first others =>
      obtain ⟨fits, hn⟩ := h.next_continued hafter rest
      have hp := (h.spaced p List.mem_cons_self).2
      exact takes_entries_entry hn (first _ (h.tail.stops_continued hp rest)) (ih h.tail others hp)

lemma takes_entries {closing : Char} {ps : List Piece} {gap : List Char}
    (h : Listed closing ps gap) (hrun : Run entry s (ps.map Piece.body) s') (rest : List Char) :
    Takes (entries closing entry true s (opened closing ps gap rest)) s' rest := by
  cases ps with
  | nil =>
    cases hrun
    obtain ⟨fits, hn⟩ := h.next_closing space_nil true rest
    exact takes_entries_closed hn
  | cons p ps =>
    cases hrun with
    | cons first others =>
      obtain ⟨fits, hn⟩ := h.next_opened rest
      have hp := (h.spaced p List.mem_cons_self).2
      exact takes_entries_entry hn (first _ (h.tail.stops_continued hp rest))
        (takes_entries_continued h.tail others hp rest)

end Entries

/-! ### Arrays and members -/

section Parts

variable {α κ : Type} {r : Reader α} {a : α}

lemma run_items {ws : List (List Char)} {as : List α} (h : List.Forall₂ (Reads r) ws as)
    (found : List α) :
    Run (fun found => r.map (· :: found)) found ws (as.reverse ++ found) := by
  induction h generalizing found with
  | nil => exact .nil found
  | @cons w a ws as hw _ ih =>
    rw [List.reverse_cons, List.append_assoc]
    exact .cons (hw.map (· :: found)) (ih (a :: found))

lemma takes_items {ps : List Piece} {gap : List Char} {as : List α} (h : Listed ']' ps gap)
    (hitems : List.Forall₂ (Reads r) (ps.map Piece.body) as) (rest : List Char) :
    Takes (items r (opened ']' ps gap rest)) as rest := by
  have ht := (takes_entries h (run_items hitems []) rest).map List.reverse
  rwa [List.append_nil, List.reverse_reverse] at ht

lemma takes_colon {gap : List Char} (hgap : Space gap) (rest : List Char) :
    Takes (colon (gap ++ ':' :: rest)) () rest := by
  refine takes_spaced ?_
  rw [skipSpace_append hgap, skipSpace_cons rest (by decide)]
  exact .ok _

lemma reads_afterColon {m : Member} (hm : m.Spaced) (h : ReadsSpaced r m.value a) :
    Reads (afterColon r) m.assigned a := by
  obtain ⟨-, hbefore, hafter⟩ := hm
  intro rest hs
  rw [Member.assigned, List.append_assoc, List.cons_append]
  exact (takes_colon hbefore _).bind fun _ => (h m.afterColon hafter rest hs).bind fun _ => .ok _

lemma reads_member {key : Reader κ} {value : κ → Reader α} {k : κ} {w v : List Char}
    (hkey : ReadsQuoted key w k) (hvalue : Reads (value k) v a) :
    Reads (member key value) (w ++ v) a := by
  obtain ⟨u, rfl, hkey⟩ := hkey
  intro rest hs
  rw [List.append_assoc, List.cons_append, List.append_assoc, List.singleton_append]
  simp only [member, if_true]
  exact (hkey _).bind fun _ => (hvalue rest hs).bind fun _ => .ok _

structure ReadsMember (key : Reader κ) (value : Reader α) (m : Member) (kv : κ × α) : Prop where
  spaced : m.Spaced
  key : ReadsQuoted key m.key kv.1
  value : ReadsSpaced value m.value kv.2

lemma run_members {key : Reader κ} {ms : List Member} {kvs : List (κ × α)}
    (h : List.Forall₂ (ReadsMember key r) ms kvs) (found : List (κ × α)) :
    Run (fun found => member key fun k => (afterColon r).map fun v => (k, v) :: found) found
      ((ms.map Member.piece).map Piece.body) (kvs.reverse ++ found) := by
  induction h generalizing found with
  | nil => exact .nil found
  | @cons m kv ms kvs hm _ ih =>
    rw [List.reverse_cons, List.append_assoc]
    refine .cons ?_ (ih (kv :: found))
    exact reads_member hm.key ((reads_afterColon hm.spaced hm.value).map _)

lemma listed_members {ms : List Member} {gap : List Char} (hspaced : ∀ m ∈ ms, m.Spaced)
    (hkeys : ∀ m ∈ ms, Starts m.key) (hgap : Space gap) :
    Listed '}' (ms.map Member.piece) gap where
  closes := by decide
  spaced := List.forall_mem_map.mpr fun m hm => (hspaced m hm).1
  starts := List.forall_mem_map.mpr fun m hm => (hkeys m hm).append m.assigned
  space := hgap

lemma takes_members {key : Reader κ} {ms : List Member} {gap : List Char} {kvs : List (κ × α)}
    (hms : Listed '}' (ms.map Member.piece) gap) (h : List.Forall₂ (ReadsMember key r) ms kvs)
    (rest : List Char) :
    Takes (members key r (opened '}' (ms.map Member.piece) gap rest)) kvs rest := by
  have ht := (takes_entries hms (run_members h []) rest).map List.reverse
  rwa [List.append_nil, List.reverse_reverse] at ht

end Parts

/-! ### Values that are skipped -/

lemma NumberForm.exists_cons {w : List Char} (h : NumberForm w) :
    ∃ c rest, w = c :: rest ∧ (c = '-' ∨ c.isDigit = true) := by
  cases h with
  | mk signed digits =>
    obtain ⟨c, ds, rfl⟩ := List.exists_cons_of_ne_nil digits.1
    simp only [List.mem_cons, List.not_mem_nil, or_false] at signed
    rcases signed with rfl | rfl
    · exact ⟨c, _, rfl, .inr (digits.2 c List.mem_cons_self)⟩
    · exact ⟨'-', _, rfl, .inl rfl⟩

lemma ne_of_sign_or_digit {c d : Char} (hc : c = '-' ∨ c.isDigit = true)
    (hd : ¬(d = '-' ∨ d.isDigit = true)) : c ≠ d := by
  rintro rfl
  exact hd hc

lemma not_mem_separators {c : Char} (hc : c = '-' ∨ c.isDigit = true) : c ∉ separators := by
  have hall : ∀ c ∈ separators, ¬(c = '-' ∨ c.isDigit = true) :=
    List.all_iff_forall_prop.mp (by decide)
  exact fun hm => hall c hm hc

lemma ValueForm.starts {w : List Char} (h : ValueForm w) : Starts w := by
  cases h with
  | null | true | false => exact starts_cons _ (by decide)
  | array | object => exact starts_bracketed (by decide) _ _ _
  | text text =>
    cases text
    exact starts_cons _ (by decide)
  | number number =>
    obtain ⟨c, rest, rfl, hc⟩ := number.exists_cons
    exact starts_cons rest (not_mem_separators hc)

section Skipping

variable {κ α : Type} {b : Builder κ α}

lemma reads_scalar_number {w : List Char} {a : α} (h : NumberForm w) (hr : Reads b.number w a) :
    Reads b.scalar w a := by
  intro rest hs
  have hn := hr rest hs
  obtain ⟨c, left, rfl, hc⟩ := h.exists_cons
  rw [List.cons_append, Builder.scalar, if_pos hc]
  · exact hn
  · exact ne_of_sign_or_digit hc (by decide)
  · exact ne_of_sign_or_digit hc (by decide)
  · exact ne_of_sign_or_digit hc (by decide)
  · exact ne_of_sign_or_digit hc (by decide)

lemma readsSpaced_value_scalar (depth : Nat) {c : Char} {w : List Char} {a : α}
    (hr : Reads b.scalar (c :: w) a) (hw : Starts (c :: w)) (harray : c ≠ '[') (hobject : c ≠ '{') :
    ReadsSpaced (b.value depth) (c :: w) a := by
  rw [Builder.value]
  refine Reads.spaced (fun rest hs => ?_) hw
  have hscalar := hr rest hs
  have hnoArray : ∀ left, c :: w ++ rest ≠ '[' :: left := fun left h => harray (List.cons.inj h).1
  have hnoObject : ∀ left, c :: w ++ rest ≠ '{' :: left := fun left h => hobject (List.cons.inj h).1
  generalize c :: w ++ rest = input at hscalar hnoArray hnoObject ⊢
  -- The depth is looked at behind an opening bracket only, but the cases on it come first.
  cases depth with
  | zero | succ _ =>
    dsimp only
    split
    · exact absurd rfl (hnoArray _)
    · exact absurd rfl (hnoObject _)
    · exact hscalar

lemma readsSpaced_skipping_scalar (depth : Nat) {c : Char} {w : List Char}
    (hc : c ∈ ['n', 't', 'f', '"'])
    (hr : ∀ rest, Takes (skipping.scalar (c :: (w ++ rest))) () rest) :
    ReadsSpaced (skipping.value depth) (c :: w) () := by
  have hall : ∀ c ∈ ['n', 't', 'f', '"'], c ∉ separators ∧ c ≠ '[' ∧ c ≠ '{' :=
    List.all_iff_forall_prop.mp (by decide)
  obtain ⟨hstart, harray, hobject⟩ := hall c hc
  exact readsSpaced_value_scalar depth (fun rest _ => hr rest) (starts_cons w hstart) harray hobject

lemma readsSpaced_skipping_number (depth : Nat) {w : List Char} (h : NumberForm w) :
    ReadsSpaced (skipping.value depth) w () := by
  have hr : Reads skipping.number w () := fun rest hs => by
    obtain ⟨n, hn⟩ := takes_numeral .malformed h hs
    exact hn.map _
  have hscalar := reads_scalar_number h hr
  have hstarts := (ValueForm.number h).starts
  obtain ⟨c, left, rfl, hc⟩ := h.exists_cons
  exact readsSpaced_value_scalar depth hscalar hstarts (ne_of_sign_or_digit hc (by decide))
    (ne_of_sign_or_digit hc (by decide))

/-- A value is skipped as a whole, however deep it is nested. -/
lemma readsSpaced_skipping {w : List Char} (h : ValueForm w) (depth : Nat)
    (hdepth : w.length ≤ depth) : ReadsSpaced (skipping.value depth) w () := by
  induction h generalizing depth with
  | null | true | false =>
    exact readsSpaced_skipping_scalar depth (by decide) fun rest => (takes_literal _ rest).map _
  | text text =>
    obtain ⟨v, rfl, hv⟩ := text.readsQuoted
    refine readsSpaced_skipping_scalar depth (by decide) fun rest => ?_
    rw [List.append_assoc]
    exact (hv rest).widen _
  | number number => exact readsSpaced_skipping_number depth number
  | @array ps gap spaced space items ih =>
    cases depth with
    | zero => exact absurd hdepth (by simp [bracketed])
    | succ depth =>
      have hps : Listed ']' ps gap := ⟨by decide, spaced, fun p hp => (items p hp).starts, space⟩
      have hitems : List.Forall₂ (Reads (skipping.value depth)) (ps.map Piece.body)
          (ps.map fun _ => ()) := by
        rw [List.forall₂_map_left_iff, List.forall₂_map_right_iff, List.forall₂_same]
        intro p hp
        -- an item is shorter than the array, so one level less is enough for it
        have hlen := length_body_lt '[' ']' gap hp
        exact (ih p hp depth (by omega)).reads
      rw [Builder.value]
      refine Reads.spaced (fun rest hs => ?_) (starts_bracketed (by decide) _ _ _)
      rw [bracketed_append]
      exact (takes_items hps hitems rest).map_widen _ _
  | @object ms gap spaced space keys values ih =>
    cases depth with
    | zero => exact absurd hdepth (by simp [bracketed])
    | succ depth =>
      have hms := listed_members spaced (fun m hm => (keys m hm).readsQuoted.starts) space
      have hmembers : List.Forall₂ (ReadsMember Reader.skippedText (skipping.value depth)) ms
          (ms.map fun _ => ((), ())) := by
        rw [List.forall₂_map_right_iff, List.forall₂_same]
        intro m hm
        have hpiece : m.piece ∈ ms.map Member.piece := List.mem_map_of_mem hm
        have hlen := length_body_lt '{' '}' gap hpiece
        have hvalue : m.value.length ≤ m.piece.body.length := by
          simp only [Member.piece, Member.assigned, List.length_append, List.length_cons]
          omega
        exact ⟨spaced m hm, (keys m hm).readsQuoted, ih m hm depth (by omega)⟩
      rw [Builder.value]
      refine Reads.spaced (fun rest hs => ?_) (starts_bracketed (by decide) _ _ _)
      rw [bracketed_append]
      exact (takes_members hms hmembers rest).map_widen _ _

end Skipping

lemma readsSpaced_skipped {w : List Char} (h : ValueForm w) : ReadsSpaced Reader.skipped w () :=
  fun gap hgap rest hs => readsSpaced_skipping h _ (by simp; omega) gap hgap rest hs

end ForeignCollections.Json
