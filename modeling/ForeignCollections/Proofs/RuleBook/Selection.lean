import Mathlib.Data.Prod.Lex
import Mathlib.Order.Bounds.Basic
import ForeignCollections.Proofs.RuleBook.History

/-!
Which rule dispatch takes. The rules that accept a source and a target stand at places: how far up
the source, how far up the target, how far down the rules of the pair. Dispatch takes the one at the
least place, compared in this order, and so the most specific and, under one pair, the newest; it
finds none only if no accepting rule stands anywhere.
-/

namespace ForeignCollections

/-! ### The first of a list -/

section

variable {α β : Type} {l : List α} {f : α → Option β} {p : α → Bool} {a : α} {b : β}

lemma exists_first_of_findSome? (h : l.findSome? f = some b) :
    ∃ (i : ℕ) (a : α), l[i]? = some a ∧ f a = some b ∧
      ∀ (j : ℕ) (x : α), l[j]? = some x → (f x).isSome = true → i ≤ j := by
  obtain ⟨before, a, after, rfl, ha, hbefore⟩ := List.findSome?_eq_some_iff.mp h
  refine ⟨before.length, a, by simp, ha, fun j x hx hfx => ?_⟩
  by_contra hj
  rw [List.getElem?_append_left (by omega)] at hx
  rw [hbefore x (List.mem_of_getElem? hx)] at hfx
  exact absurd hfx Bool.false_ne_true

lemma exists_first_of_find? (h : l.find? p = some a) :
    ∃ i : ℕ, l[i]? = some a ∧ ∀ (j : ℕ) (x : α), l[j]? = some x → p x = true → i ≤ j := by
  obtain ⟨-, before, after, rfl, hbefore⟩ := List.find?_eq_some_iff_append.mp h
  refine ⟨before.length, by simp, fun j x hx hpx => ?_⟩
  by_contra hj
  rw [List.getElem?_append_left (by omega)] at hx
  have hnot := hbefore x (List.mem_of_getElem? hx)
  rw [hpx] at hnot
  exact absurd hnot (by decide)

end

/-- A place where a rule may stand: how far up the source, how far up the target and how far down
the rules of the pair. -/
structure Place where
  source : ℕ
  target : ℕ
  rank : ℕ

def Place.key (p : Place) : ℕ ×ₗ ℕ ×ₗ ℕ := toLex (p.source, toLex (p.target, p.rank))

lemma Place.key_le_iff {p q : Place} : p.key ≤ q.key ↔ p.source < q.source ∨
    p.source = q.source ∧ (p.target < q.target ∨ p.target = q.target ∧ p.rank ≤ q.rank) := by
  rw [key, key, Prod.Lex.toLex_le_toLex, Prod.Lex.toLex_le_toLex]

lemma Place.eq_of_key_eq {p q : Place} (h : p.key = q.key) : p = q := by
  cases p
  cases q
  simpa [key] using h

namespace RuleBook

/-- At this place stands this rule, and it accepts the source and the target. -/
structure Offers (b : RuleBook) (source target : Ty) (p : Place) (r : Rule) : Prop where
  filed : ∃ s t, source.ancestors[p.source]? = some s ∧ target.ancestors[p.target]? = some t ∧
    (b.rulesFor s t)[p.rank]? = some r
  accepts : r.accepts source target = true

/-- At this place stands the first of the rules that accept the source and the target. -/
structure Leads (b : RuleBook) (source target : Ty) (p : Place) (r : Rule) : Prop
    extends b.Offers source target p r where
  first : ∀ q r', b.Offers source target q r' → p.key ≤ q.key

variable {b : RuleBook} {source target : Ty} {p q : Place} {r r' : Rule}

lemma Offers.rule_unique (h : b.Offers source target p r) (h' : b.Offers source target p r') :
    r = r' := by
  obtain ⟨s, t, hs, ht, hr⟩ := h.filed
  obtain ⟨s', t', hs', ht', hr'⟩ := h'.filed
  cases hs.symm.trans hs'
  cases ht.symm.trans ht'
  exact Option.some.inj (hr.symm.trans hr')

lemma Leads.rule_unique (h : b.Leads source target p r) (h' : b.Leads source target q r') :
    r = r' := by
  have hkey := le_antisymm (h.first q r' h'.toOffers) (h'.first p r h.toOffers)
  rw [← Place.eq_of_key_eq hkey] at h'
  exact h.toOffers.rule_unique h'.toOffers

lemma exists_leads_of_select? (h : b.select? source target = some r) :
    ∃ p, b.Leads source target p r := by
  obtain ⟨i, s, hs, htarget, hi⟩ := exists_first_of_findSome? h
  obtain ⟨j, t, ht, hrule, hj⟩ := exists_first_of_findSome? htarget
  obtain ⟨k, hr, hk⟩ := exists_first_of_find? hrule
  have haccepts : r.accepts source target = true := by simpa using List.find?_some hrule
  refine ⟨⟨i, j, k⟩, ⟨⟨s, t, hs, ht, hr⟩, haccepts⟩, ?_⟩
  rintro ⟨i', j', k'⟩ r' ⟨⟨s', t', hs', ht', hr'⟩, haccepts'⟩
  -- an accepting rule under a pair is found there, and so under the source of the pair
  have hfound : ((b.rulesFor s' t').find? (·.accepts source target)).isSome = true :=
    List.find?_isSome.mpr ⟨r', List.mem_of_getElem? hr', haccepts'⟩
  have hle : i ≤ i' := hi i' s' hs'
    (List.findSome?_isSome_iff.mpr ⟨t', List.mem_of_getElem? ht', hfound⟩)
  rw [Place.key_le_iff]
  rcases Nat.lt_or_eq_of_le hle with hlt | rfl
  · exact Or.inl hlt
  · cases hs.symm.trans hs'
    refine Or.inr ⟨rfl, ?_⟩
    rcases Nat.lt_or_eq_of_le (hj j' t' ht' hfound) with hlt | rfl
    · exact Or.inl hlt
    · cases ht.symm.trans ht'
      exact Or.inr ⟨rfl, hk k' r' hr' haccepts'⟩

lemma Offers.exists_select? (h : b.Offers source target p r) :
    ∃ r', b.select? source target = some r' := by
  obtain ⟨s, t, hs, ht, hr⟩ := h.filed
  exact RuleBook.exists_select? (List.mem_of_getElem? hs) (List.mem_of_getElem? ht)
    (List.mem_of_getElem? hr) h.accepts

/-- **Dispatch takes the rule at the least place.** -/
lemma select?_eq_some_iff : b.select? source target = some r ↔ ∃ p, b.Leads source target p r := by
  refine ⟨exists_leads_of_select?, fun ⟨p, h⟩ => ?_⟩
  obtain ⟨r', hr'⟩ := h.toOffers.exists_select?
  obtain ⟨q, hq⟩ := exists_leads_of_select? hr'
  rw [hr', hq.rule_unique h]

lemma select?_isSome_iff :
    (b.select? source target).isSome = true ↔ ∃ p r, b.Offers source target p r := by
  rw [Option.isSome_iff_exists]
  constructor
  · rintro ⟨r, hr⟩
    obtain ⟨p, hp⟩ := exists_leads_of_select? hr
    exact ⟨p, r, hp.toOffers⟩
  · rintro ⟨p, r, h⟩
    exact h.exists_select?

lemma canConvert_iff : b.canConvert source target = true ↔
    target.isAssignableFrom source = true ∨ ∃ p r, b.Offers source target p r := by
  rw [canConvert, Bool.or_eq_true, select?_isSome_iff]

variable {v : Value}

lemma convert_null (b : RuleBook) (target : Ty) : b.convert .null target = .ok .null := rfl

lemma convert_of_leads (hn : v.isNull = false)
    (ha : target.isAssignableFrom v.runtimeType = false)
    (h : b.Leads v.runtimeType target p r) :
    b.convert v target = r.convert v v.runtimeType target :=
  convert_of_select? hn ha (select?_eq_some_iff.mpr ⟨p, h⟩)

lemma convert_of_no_offer (hn : v.isNull = false)
    (ha : target.isAssignableFrom v.runtimeType = false)
    (h : ∀ p r, ¬b.Offers v.runtimeType target p r) :
    b.convert v target = .error (.noConverter v.runtimeType.name target.name) := by
  have hnone : b.select? v.runtimeType target = none := by
    rw [← Option.not_isSome_iff_eq_none, select?_isSome_iff]
    rintro ⟨p, r, hr⟩
    exact h p r hr
  exact convert_of_select?_eq_none hn ha hnone

end RuleBook

/-- **A conversion is made by the most specific and newest rule that accepts.** After any edits of
a rule book, if rules accept a source and a target, one of them stands at the least place; it
converts every value of the source that is neither null nor assignable to the target. If no rule
accepts, the conversion fails and names both types. Null stays null, and what is assignable to the
target stays as it is, whatever the rules; and under each pair the newest rule stands first. -/
theorem convert_by_first_rule (h : History) (source target : Ty) :
    ((∃ p r, h.book.Offers source target p r) → ∃ p r, h.book.Leads source target p r) ∧
    (∀ v : Value, v.isNull = false → v.runtimeType = source →
      target.isAssignableFrom source = false →
        (∀ p r, h.book.Leads source target p r →
          h.book.convert v target = r.convert v source target) ∧
        ((∀ p r, ¬h.book.Offers source target p r) →
          h.book.convert v target = .error (.noConverter source.name target.name))) ∧
    (h.book.canConvert source target = true ↔
      target.isAssignableFrom source = true ∨ ∃ p r, h.book.Offers source target p r) ∧
    h.book.convert .null target = .ok .null ∧
    (∀ v : Value, target.isAssignableFrom v.runtimeType = true → h.book.convert v target = .ok v) ∧
    ∀ s t, h.book.rulesFor s t = h.current s t := by
  refine ⟨?_, ?_, RuleBook.canConvert_iff, RuleBook.convert_null h.book target,
    fun v => RuleBook.convert_of_assignable h.book, h.rulesFor_book⟩
  · rintro ⟨p, r, hr⟩
    obtain ⟨r', hr'⟩ := hr.exists_select?
    obtain ⟨q, hq⟩ := RuleBook.exists_leads_of_select? hr'
    exact ⟨q, r', hq⟩
  · rintro v hn rfl ha
    exact ⟨fun p r => RuleBook.convert_of_leads hn ha, RuleBook.convert_of_no_offer hn ha⟩

end ForeignCollections
