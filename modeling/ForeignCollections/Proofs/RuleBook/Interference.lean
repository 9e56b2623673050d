import ForeignCollections.Proofs.RuleBook.Selection

/-!
What a new rule changes. A rule whose id is not in the book yet goes in front under its own pairs
and moves nothing else, so dispatch takes what it took before or the new rule. It takes the new
rule exactly if this one accepts and declares a pair of ancestors that is at least as specific as
the place of every accepting rule of the book.
-/

namespace ForeignCollections

lemma findSome?_eq_or_eq_some {α β : Type} {l : List α} {f g : α → Option β} {b : β}
    (h : ∀ a ∈ l, g a = f a ∨ g a = some b) :
    l.findSome? g = l.findSome? f ∨ l.findSome? g = some b := by
  induction l with
  | nil => exact Or.inl rfl
  | cons a l ih =>
    rw [List.findSome?_cons, List.findSome?_cons]
    rcases h a List.mem_cons_self with ha | ha
    · rw [ha]
      cases f a with
      | some c => exact Or.inl rfl
      | none => exact ih fun x hx => h x (List.mem_cons_of_mem a hx)
    · rw [ha]
      exact Or.inr rfl

/-- The rule declares the pair of the ancestors that stand this far up the source and this far up
the target. -/
def Rule.DeclaresAt (r : Rule) (source target : Ty) (i j : ℕ) : Prop :=
  ∃ s t, source.ancestors[i]? = some s ∧ target.ancestors[j]? = some t ∧ r.declares s t = true

namespace RuleBook

/-- Under no pair stands a rule with this id. -/
def Unlisted (b : RuleBook) (id : String) : Prop := ∀ s t, ¬b.Lists id s t

/-- The rule accepts the source and the target, and one of its pairs stands no farther up than any
rule of the book that accepts them. -/
structure YieldsTo (b : RuleBook) (r : Rule) (source target : Ty) : Prop where
  accepts : r.accepts source target = true
  pair : ∃ i j, r.DeclaresAt source target i j ∧
    ∀ q r', b.Offers source target q r' → (⟨i, j, 0⟩ : Place).key ≤ q.key

variable {b : RuleBook} {r r' : Rule} {s t source target : Ty} {q : Place}

lemma Unlisted.not_mem (hnew : b.Unlisted r.id) (s t : Ty) : r ∉ b.rulesFor s t :=
  fun hr => hnew s t (List.mem_map_of_mem hr)

/-- **A new rule goes in front** under its pairs, and nothing is dropped. -/
lemma Unlisted.rulesFor_add (hnew : b.Unlisted r.id) (s t : Ty) : (b.add r).rulesFor s t =
    if r.declares s t = true then r :: b.rulesFor s t else b.rulesFor s t := by
  have hkept : ((b.rulesFor s t).filter fun r' => r'.id != r.id) = b.rulesFor s t := by
    refine List.filter_eq_self.mpr fun r' hr' => bne_iff_ne.mpr fun hid => ?_
    exact hnew s t (hid ▸ List.mem_map_of_mem hr')
  rw [RuleBook.rulesFor_add, hkept]

/-- **Dispatch takes what it took before, or the new rule.** -/
lemma Unlisted.select?_add (hnew : b.Unlisted r.id) (source target : Ty) :
    (b.add r).select? source target = b.select? source target ∨
      (b.add r).select? source target = some r := by
  refine findSome?_eq_or_eq_some fun s _ => findSome?_eq_or_eq_some fun t _ => ?_
  rw [hnew.rulesFor_add]
  split
  · rw [List.find?_cons]
    split
    · exact Or.inr rfl
    · exact Or.inl rfl
  · exact Or.inl rfl

/-- What the book offered before it still offers, at most one rank farther down. -/
lemma Unlisted.offers_add (hnew : b.Unlisted r.id) (h : b.Offers source target q r') :
    ∃ k, (b.add r).Offers source target ⟨q.source, q.target, k⟩ r' := by
  obtain ⟨s, t, hs, ht, hr⟩ := h.filed
  by_cases hd : r.declares s t = true
  · refine ⟨q.rank + 1, ⟨s, t, hs, ht, ?_⟩, h.accepts⟩
    rw [hnew.rulesFor_add, if_pos hd, List.getElem?_cons_succ]
    exact hr
  · refine ⟨q.rank, ⟨s, t, hs, ht, ?_⟩, h.accepts⟩
    rw [hnew.rulesFor_add, if_neg hd]
    exact hr

lemma Unlisted.offers_of_add (hnew : b.Unlisted r.id) (hne : r' ≠ r)
    (h : (b.add r).Offers source target q r') :
    ∃ k, b.Offers source target ⟨q.source, q.target, k⟩ r' := by
  obtain ⟨s, t, hs, ht, hr⟩ := h.filed
  have hmem : r' ∈ b.rulesFor s t := by
    have hr' := List.mem_of_getElem? hr
    rw [hnew.rulesFor_add] at hr'
    split at hr'
    · exact (List.mem_cons.mp hr').resolve_left hne
    · exact hr'
  obtain ⟨k, hk⟩ := List.mem_iff_getElem?.mp hmem
  exact ⟨k, ⟨s, t, hs, ht, hk⟩, h.accepts⟩

lemma Unlisted.offers_self (hnew : b.Unlisted r.id) {i j : ℕ}
    (hd : r.DeclaresAt source target i j) (ha : r.accepts source target = true) :
    (b.add r).Offers source target ⟨i, j, 0⟩ r := by
  obtain ⟨s, t, hs, ht, hd⟩ := hd
  refine ⟨⟨s, t, hs, ht, ?_⟩, ha⟩
  rw [hnew.rulesFor_add, if_pos hd]
  rfl

lemma Unlisted.declaresAt_of_offers (hnew : b.Unlisted r.id)
    (h : (b.add r).Offers source target q r) : r.DeclaresAt source target q.source q.target := by
  obtain ⟨s, t, hs, ht, hr⟩ := h.filed
  refine ⟨s, t, hs, ht, ?_⟩
  by_contra hd
  rw [hnew.rulesFor_add, if_neg hd] at hr
  exact hnew.not_mem s t (List.mem_of_getElem? hr)

/-- **Dispatch takes the new rule exactly where the book yields to it.** -/
lemma Unlisted.select?_add_eq_some_iff (hnew : b.Unlisted r.id) :
    (b.add r).select? source target = some r ↔ b.YieldsTo r source target := by
  rw [select?_eq_some_iff]
  constructor
  · rintro ⟨p, hp⟩
    refine ⟨hp.accepts, p.source, p.target, hnew.declaresAt_of_offers hp.toOffers, ?_⟩
    intro q r' hq
    obtain ⟨k, hk⟩ := hnew.offers_add hq
    have hle := hp.first _ _ hk
    rw [Place.key_le_iff] at hle ⊢
    dsimp only at hle ⊢
    omega
  · rintro ⟨ha, i, j, hd, hfirst⟩
    have hself := hnew.offers_self hd ha
    obtain ⟨r', hr'⟩ := hself.exists_select?
    obtain ⟨p, hp⟩ := exists_leads_of_select? hr'
    by_cases hne : r' = r
    · exact ⟨p, hne ▸ hp⟩
    · -- else another rule leads, at the very pair where the new one stands in front
      exfalso
      obtain ⟨k, hk⟩ := hnew.offers_of_add hne hp.toOffers
      have hle := hp.first _ _ hself
      have hge := hfirst _ _ hk
      rw [Place.key_le_iff] at hle hge
      dsimp only at hle hge
      have hp0 : p = ⟨i, j, 0⟩ := by
        obtain ⟨ps, pt, pr⟩ := p
        simp only [Place.mk.injEq] at hle hge ⊢
        omega
      exact hne ((hp0 ▸ hp.toOffers).rule_unique hself)

end RuleBook

/-- **A new rule interferes only where it matches.** After any edits of a rule book, a rule whose
id is listed nowhere is added: for each source and target dispatch takes the rule that it took
before or the new one, and the new one exactly if it accepts them and declares a pair of ancestors
with no accepting rule of the book before it. So nothing that could be converted cannot be any
more, and what the new rule does not accept is converted as before. -/
theorem select?_add_of_unlisted (h : History) (r : Rule) (hnew : h.book.Unlisted r.id) :
    (∀ source target,
      (h.book.add r).select? source target = h.book.select? source target ∨
        (h.book.add r).select? source target = some r) ∧
    (∀ source target,
      (h.book.add r).select? source target = some r ↔ h.book.YieldsTo r source target) ∧
    (∀ source target, h.book.canConvert source target = true →
      (h.book.add r).canConvert source target = true) ∧
    ∀ (v : Value) (target : Ty), r.accepts v.runtimeType target = false →
      (h.book.add r).convert v target = h.book.convert v target := by
  refine ⟨hnew.select?_add, fun source target => hnew.select?_add_eq_some_iff, ?_, ?_⟩
  · intro source target hc
    rw [RuleBook.canConvert, Bool.or_eq_true] at hc ⊢
    refine hc.imp_right fun hs => ?_
    rcases hnew.select?_add source target with hsame | hself
    · rw [hsame]
      exact hs
    · rw [hself]
      rfl
  · intro v target ha
    refine RuleBook.convert_congr ((hnew.select?_add _ _).resolve_right fun hself => ?_)
    exact Bool.false_ne_true (ha.symm.trans (hnew.select?_add_eq_some_iff.mp hself).accepts)

def hashSetToText : Rule where
  id := "hash-set-to-text"
  pairs := [(Native.set, Native.string)]
  accepts source _ := source == Native.hashSet
  convert value _ _ := .ok value

lemma unlisted_hashSetToText : (History.book [.add .firstItem]).Unlisted hashSetToText.id := by
  intro s t
  rw [RuleBook.Lists, History.rulesFor_book, ← List.nil_append [Edit.add Rule.firstItem],
    History.current_add, History.current_nil, List.filter_nil]
  split
  · show hashSetToText.id ∉ [Rule.firstItem.id]
    decide
  · exact List.not_mem_nil

/-- Hash sets are taken from the general rule, which stands farther up; lists and linked hash sets
are left to it. -/
theorem select?_add_of_unlisted_hashSet :
    let h : History := [.add .firstItem]
    h.book.Unlisted hashSetToText.id ∧
      (h.book.add hashSetToText).select? Native.hashSet Native.string = some hashSetToText ∧
      h.book.YieldsTo hashSetToText Native.hashSet Native.string ∧
      h.book.canConvert Native.arrayList Native.string = true ∧
      (h.book.add hashSetToText).canConvert Native.arrayList Native.string = true ∧
      (h.book.add hashSetToText).convert (.set Native.linkedHashSet [.text "a"]) Native.string =
        h.book.convert (.set Native.linkedHashSet [.text "a"]) Native.string := by
  intro h
  obtain ⟨hselect, hyields, hcan, hconvert⟩ :=
    select?_add_of_unlisted h hashSetToText unlisted_hashSetToText
  have hbefore : (h.book.select? Native.hashSet Native.string).map (·.id) =
      some "collection-to-object" := by decide +kernel
  have hafter : ((h.book.add hashSetToText).select? Native.hashSet Native.string).map (·.id) =
      some "hash-set-to-text" := by decide +kernel
  have hself : (h.book.add hashSetToText).select? Native.hashSet Native.string =
      some hashSetToText := by
    refine (hselect Native.hashSet Native.string).resolve_left fun hsame => ?_
    rw [hsame, hbefore] at hafter
    exact absurd hafter (by decide)
  have hlist : h.book.canConvert Native.arrayList Native.string = true := by decide +kernel
  exact ⟨unlisted_hashSetToText, hself, (hyields _ _).mp hself, hlist, hcan _ _ hlist,
    hconvert _ _ rfl⟩

end ForeignCollections
