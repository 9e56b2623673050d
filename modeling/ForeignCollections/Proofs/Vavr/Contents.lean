import ForeignCollections.Proofs.Vavr.Routes

/-!
No conversion loses, invents or reorders anything, or turns a collection into a map or a map
into a collection. Both rules hand over the elements as they are; only where a set is built are
repetitions left out.
-/

namespace ForeignCollections.Vavr

open Value Entries

/-- `w` holds what `v` holds: a scalar itself, a map exactly the entries of a map, and a sequence
or a set exactly the items, in their order; a set holds each of them once, at its first place. -/
def KeepsContents : Value → Value → Prop
  | .sequence _ xs, w | .set _ xs, w =>
    (∃ t, w = .sequence t xs) ∨ ∃ t, w = .set t (withoutRepeats equal xs)
  | .map _ es, w => ∃ t, w = .map t es
  | scalar, w => w = scalar

variable {v w : Value}

lemma KeepsContents.wellFormed (h : KeepsContents v w) (hv : v.WellFormed) : w.WellFormed := by
  cases hv with
  | null | bool | int | text =>
    rw [show w = _ from h]
    constructor
  | sequence _ hx =>
    obtain ⟨t, rfl⟩ | ⟨t, rfl⟩ := h
    · exact .sequence t hx
    · exact .set t (distinct_withoutRepeats _) fun x hm => hx x (mem_of_mem_withoutRepeats hm)
  | set _ _ hx =>
    obtain ⟨t, rfl⟩ | ⟨t, rfl⟩ := h
    · exact .sequence t hx
    · exact .set t (distinct_withoutRepeats _) fun x hm => hx x (mem_of_mem_withoutRepeats hm)
  | map _ hd hk he =>
    obtain ⟨t, rfl⟩ := h
    exact .map t hd hk he

lemma keepsContents_withType (v : Proper) (t : Ty) : KeepsContents v (v.withType t) := by
  obtain ⟨v, hv⟩ := v
  cases hv with
  | null | bool | int | text => rfl
  | sequence => exact Or.inl ⟨t, rfl⟩
  | set _ hd => exact Or.inr ⟨t, by rw [withoutRepeats_of_distinct hd]; rfl⟩
  | map => exact ⟨t, rfl⟩

lemma keepsContents_self (v : Proper) : KeepsContents v v := by
  have h : KeepsContents v (v.value.withType v.value.runtimeType) := keepsContents_withType v _
  rwa [withType_runtimeType] at h

lemma keepsContents_sequence (hc : v.isContainer = true) (hs : v.shape ≠ some .map) (t : Ty) :
    KeepsContents v (.sequence t v.items) := by
  cases v with
  | sequence | set => exact Or.inl ⟨t, rfl⟩
  | map => exact absurd rfl hs
  | _ => exact nomatch hc

lemma keepsContents_setOf {v : Proper} (hc : v.value.isContainer = true)
    (hs : v.value.shape ≠ some .map) (t : Ty) : KeepsContents v (.setOf t v.value.items) := by
  obtain ⟨v, hv⟩ := v
  rw [setOf_eq hv.items]
  cases v with
  | sequence | set => exact Or.inr ⟨t, rfl⟩
  | map => exact absurd rfl hs
  | _ => exact nomatch hc

lemma keepsContents_of_unwrapped {v : Proper} (h : unwrapped v = .ok w) :
    KeepsContents v w := by
  rcases unwrapped_cases h with ⟨hv, rfl⟩ | ⟨f, -, -, rfl⟩
  · rw [hv]
    rfl
  · exact keepsContents_withType v _

lemma keepsContents_of_wrapped {v : Proper} {source target : Ty}
    (h : wrapped v source target = .ok w) : KeepsContents v w := by
  by_cases hc : v.value.isContainer = true
  · cases wraps_of_wrapped h with
    | scalar hn => rw [hc] at hn; exact absurd hn (by decide)
    | sequence _ hs hw => exact hw ▸ keepsContents_sequence hc hs _
    | set _ hs hw => exact hw ▸ keepsContents_setOf hc hs _
    | map _ he hw => rw [he, hw]; exact ⟨_, rfl⟩
    | plainSequence _ _ hs hw => exact hw ▸ keepsContents_sequence hc hs _
    | plainSet _ _ hs hw => exact hw ▸ keepsContents_setOf hc hs _
    | plainMap _ _ he hw => rw [he, hw]; exact ⟨_, rfl⟩
    | asIs _ _ _ _ hw => rw [hw]; exact keepsContents_self v
  · rw [wrapped, if_pos (by simpa using hc)] at h
    cases h
    exact keepsContents_self v

/-- **Conversion keeps the contents**, whatever the type of the value, the type asked for and
the handles that their hierarchies consist of. What it gives is well formed again. -/
theorem convert_keepsContents {r : Registry} (hr : Registry.build Cli.registrars = .ok r)
    {v : Proper} {target : Ty} (h : r.ruleBook.convert v target = .ok w) :
    KeepsContents v w ∧ w.WellFormed := by
  have hkeeps : KeepsContents v w := by
    rcases RuleBook.convert_cases h with ⟨hv, rfl⟩ | ⟨-, rfl⟩ | ⟨-, -, rule, hrule, h⟩
    · rw [hv]
      rfl
    · exact keepsContents_self v
    · rcases select?_cases hr hrule with ⟨rfl, -⟩ | ⟨rfl, -⟩
      · exact keepsContents_of_unwrapped h
      · exact keepsContents_of_wrapped h
  exact ⟨hkeeps, hkeeps.wellFormed v.wellFormed⟩

def ring : Ty := .mk "com.example.Ring" (by decide) .concrete [Native.arrayList]

def ringOfThree : Proper := .sequence ring [.text "a", .sequence ring [], .text "a"]

lemma canonical_ring : ring.Canonical := by
  refine Ty.canonical_of_supers_subset (by decide) fun s hs => native_subset_catalogue ?_
  rw [List.mem_singleton.mp hs]
  simp [Native.all]

lemma convert_ringOfThree {r : Registry} (hr : Registry.build Cli.registrars = .ok r) :
    r.ruleBook.convert ringOfThree set =
      .ok (.set linkedHashSet [.text "a", .sequence ring []]) := by
  have hset : Family.set.Only set := ⟨by cbv, by cbv, by cbv⟩
  have hring : Family.sequence.OnlyNative ring := ⟨by cbv, by cbv⟩
  have hc : set.Canonical :=
    Ty.canonical_of_mem_catalogue (all_subset_catalogue (base_mem_all .set))
  rw [convert_into hr (v := ringOfThree) rfl canonical_ring (by cbv) hring hc hset (by decide)
    (by cbv)]
  show Except.ok (Value.setOf linkedHashSet ringOfThree.value.items) = _
  cbv

theorem convert_keepsContents_ring : ∃ r, Registry.build Cli.registrars = .ok r ∧
    r.ruleBook.convert ringOfThree set =
      .ok (.set linkedHashSet [.text "a", .sequence ring []]) ∧
    KeepsContents ringOfThree (.set linkedHashSet [.text "a", .sequence ring []]) ∧
    (Value.set linkedHashSet [.text "a", .sequence ring []]).WellFormed := by
  obtain ⟨r, hr⟩ := exists_build
  exact ⟨r, hr, convert_ringOfThree hr, convert_keepsContents hr (convert_ringOfThree hr)⟩

end ForeignCollections.Vavr
