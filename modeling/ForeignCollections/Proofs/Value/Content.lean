import ForeignCollections.Proofs.Value.Equality

/-!
What equality of values says. Two well-formed values are equal exactly if they have the same
content: scalars are the same, sequences stand side by side item by item, and sets and maps do so
once the second is put in the order of the first, at every depth and whatever the runtime types. So
the digests of equal values are equal, and a member or a key that is looked for by any hash of its
digest is found exactly if an equal one is there, in whatever order that one holds its own members.
-/

namespace ForeignCollections.Value

open Entries

/-- The same content: the order of sets and maps does not count, nor do runtime types. -/
inductive SameContent : Value → Value → Prop where
  | null : SameContent .null .null
  | bool (b : Bool) : SameContent (.bool b) (.bool b)
  | int (n : Int64) : SameContent (.int n) (.int n)
  | text (s : String) : SameContent (.text s) (.text s)
  | sequence (t u : Ty) {xs ys : List Value} (items : List.Forall₂ SameContent xs ys) :
      SameContent (.sequence t xs) (.sequence u ys)
  | set (t u : Ty) {xs ys zs : List Value} (reordered : zs.Perm ys)
      (members : List.Forall₂ SameContent xs zs) : SameContent (.set t xs) (.set u ys)
  | map (t u : Ty) {es fs gs : List (Value × Value)} (reordered : gs.Perm fs)
      (keys : List.Forall₂ SameContent (es.map (·.1)) (gs.map (·.1)))
      (values : List.Forall₂ SameContent (es.map (·.2)) (gs.map (·.2))) :
      SameContent (.map t es) (.map u fs)

variable {a b : Value} {xs ys : List Value} {es fs : List (Value × Value)}

lemma sameContent_self (ha : a.WellFormed) : a.SameContent a := by
  induction ha with
  | null => exact .null
  | bool b => exact .bool b
  | int n => exact .int n
  | text s => exact .text s
  | sequence t _ ih => exact .sequence t t (List.forall₂_same.mpr ih)
  | set t _ _ ih => exact .set t t (.refl _) (List.forall₂_same.mpr ih)
  | map t _ _ _ ihk ihv =>
    refine .map t t (.refl _) (List.forall₂_same.mpr ?_) (List.forall₂_same.mpr ?_)
    · exact List.forall_mem_map.mpr ihk
    · exact List.forall_mem_map.mpr ihv

/-! ### Equality and content -/

lemma equal_set_iff (hx : ∀ x ∈ xs, x.WellFormed) (hy : ∀ y ∈ ys, y.WellFormed)
    (hd : Distinct equal xs) (t u : Ty) : (set t xs).equal (set u ys) = true ↔
      ∃ zs : List Value, zs.Perm ys ∧ List.Forall₂ (fun x z => x.equal z = true) xs zs := by
  rw [equal, Bool.and_eq_true, beq_iff_eq, allIn_iff]
  constructor
  · rintro ⟨hlen, h⟩
    exact exists_perm_forall₂ (Nat.le_of_eq hlen.symm)
      (lawfulOn_wellFormed.members_apart hx hy hd) h
  · rintro ⟨zs, hperm, hzs⟩
    refine ⟨hzs.length_eq.trans hperm.length_eq, fun x hm => ?_⟩
    obtain ⟨z, hz, hxz⟩ := exists_right_of_forall₂ hzs hm
    exact ⟨z, hperm.mem_iff.mp hz, hxz⟩

lemma equal_map_iff (he : ∀ e ∈ es, e.1.WellFormed) (hf : ∀ f ∈ fs, f.1.WellFormed)
    (hd : Distinct equal (es.map (·.1))) (hd' : Distinct equal (fs.map (·.1))) (t u : Ty) :
    (map t es).equal (map u fs) = true ↔
      ∃ gs : List (Value × Value), gs.Perm fs ∧ List.Forall₂ EqualEntry es gs := by
  rw [equal, Bool.and_eq_true, beq_iff_eq]
  constructor
  · rintro ⟨hlen, h⟩
    exact exists_perm_forall₂ (Nat.le_of_eq hlen.symm)
      (lawfulOn_wellFormed.entries_apart he hf hd) (exists_equalEntry_of_entriesIn h)
  · rintro ⟨gs, hperm, hgs⟩
    have hmet : ∀ e ∈ es, ∃ f ∈ fs, EqualEntry e f := by
      intro e hm
      obtain ⟨g, hg, heg⟩ := exists_right_of_forall₂ hgs hm
      exact ⟨g, hperm.mem_iff.mp hg, heg⟩
    have hunique := fun e hm => lawfulOn_wellFormed.unique_entry hd' (he e hm) hf
    exact ⟨hgs.length_eq.trans hperm.length_eq, entriesIn_of_unique hunique hmet⟩

lemma forall₂_equalEntry_iff : List.Forall₂ EqualEntry es fs ↔
    List.Forall₂ (fun k l => equal k l = true) (es.map (·.1)) (fs.map (·.1)) ∧
      List.Forall₂ (fun v w => equal v w = true) (es.map (·.2)) (fs.map (·.2)) := by
  simp only [List.forall₂_map_left_iff, List.forall₂_map_right_iff]
  exact forall₂_and_iff

/-- **Equal values are those of the same content.** -/
lemma equal_iff_sameContent (ha : a.WellFormed) (hb : b.WellFormed) :
    a.equal b = true ↔ a.SameContent b := by
  induction ha generalizing b with
  | null | bool | int | text =>
    refine ⟨fun h => ?_, fun h => ?_⟩
    · cases hb <;> simp_all [equal]
      constructor
    · cases h
      simp [equal]
  | sequence t hx ih =>
    cases hb with
    | sequence u hy =>
      have hitems := forall₂_iff_of_mem fun x hm y hm' => ih x hm (hy y hm')
      rw [equal, equalItems_iff, hitems]
      refine ⟨.sequence t u, fun h => ?_⟩
      cases h
      assumption
    | _ => exact iff_of_false (by simp [equal]) (by rintro ⟨⟩)
  | @set t xs hd hx ih =>
    cases hb with
    | @set u ys _ hy =>
      have hmembers : ∀ zs : List Value, zs.Perm ys →
          (List.Forall₂ (fun x z => x.equal z = true) xs zs ↔ List.Forall₂ SameContent xs zs) :=
        fun zs hperm => forall₂_iff_of_mem fun x hm z hz => ih x hm (hy z (hperm.mem_iff.mp hz))
      rw [equal_set_iff hx hy hd]
      constructor
      · rintro ⟨zs, hperm, hzs⟩
        exact .set t u hperm ((hmembers zs hperm).mp hzs)
      · intro h
        cases h with
        | set _ _ hperm hzs => exact ⟨_, hperm, (hmembers _ hperm).mpr hzs⟩
    | _ => exact iff_of_false (by simp [equal]) (by rintro ⟨⟩)
  | @map t es hd hk hv ihk ihv =>
    cases hb with
    | @map u fs hd' hk' hv' =>
      have hentries : ∀ gs : List (Value × Value), gs.Perm fs → (List.Forall₂ EqualEntry es gs ↔
          List.Forall₂ SameContent (es.map (·.1)) (gs.map (·.1)) ∧
            List.Forall₂ SameContent (es.map (·.2)) (gs.map (·.2))) := by
        intro gs hperm
        rw [forall₂_equalEntry_iff]
        refine and_congr (forall₂_iff_of_mem ?_) (forall₂_iff_of_mem ?_)
        · simp only [List.forall_mem_map]
          exact fun e he g hg => ihk e he (hk' g (hperm.mem_iff.mp hg))
        · simp only [List.forall_mem_map]
          exact fun e he g hg => ihv e he (hv' g (hperm.mem_iff.mp hg))
      rw [equal_map_iff hk hk' hd hd']
      constructor
      · rintro ⟨gs, hperm, hgs⟩
        obtain ⟨hkeys, hvalues⟩ := (hentries gs hperm).mp hgs
        exact .map t u hperm hkeys hvalues
      · intro h
        cases h with
        | map _ _ hperm hkeys hvalues =>
          exact ⟨_, hperm, (hentries _ hperm).mpr ⟨hkeys, hvalues⟩⟩
    | _ => exact iff_of_false (by simp [equal]) (by rintro ⟨⟩)

/-! ### Looking up -/

/-- Equality as a hash table looks for members and keys: by a hash of the digest first. -/
def sameHashed (hash : List Mark → UInt64) (a b : Value) : Bool :=
  hash a.digest == hash b.digest && a.equal b

lemma sameHashed_eq_sameKey (hash : List Mark → UInt64) : sameHashed hash = sameKey := by
  funext a b
  rw [sameKey_eq_equal, sameHashed]
  cases h : a.equal b with
  | true => rw [digest_eq_of_equal h, beq_self_eq_true, Bool.true_and]
  | false => rw [Bool.and_false]

lemma contains_iff : b.contains a = true ↔ ∃ x ∈ b.items, a.equal x = true := by
  simp only [contains, List.any_eq_true, sameKey_eq_equal]

lemma get?_eq_some_iff {v : Value} (hb : b.WellFormed) (ha : a.WellFormed) :
    b.get? a = some v ↔ ∃ e ∈ b.entries, a.equal e.1 = true ∧ e.2 = v := by
  cases hb with
  | @map _ es hd hk _ =>
    rw [get?, Entries.get?, funext₂ sameKey_eq_equal, Option.map_eq_some_iff, entries]
    constructor
    · rintro ⟨e, hfind, rfl⟩
      obtain ⟨hm, hkey⟩ := mem_of_find?_key hfind
      exact ⟨e, hm, hkey, rfl⟩
    · rintro ⟨e, hm, hkey, rfl⟩
      have hsome : (es.find? fun f => a.equal f.1).isSome = true :=
        List.find?_isSome.mpr ⟨e, hm, hkey⟩
      obtain ⟨f, hf⟩ := Option.isSome_iff_exists.mp hsome
      obtain ⟨hm', hkey'⟩ := mem_of_find?_key hf
      have hef := lawfulOn_wellFormed.unique_entry hd ha hk e hm f hm' hkey hkey'
      exact ⟨f, hf, by rw [hef]⟩
  | _ => simp [get?, entries]

/-- **Equality is an equivalence that digests respect.** On well-formed values equality is
reflexive, symmetric and transitive, and holds exactly between values of the same content. Equal
values have equal digests, so that no hash of the digest hides a member or a key: whatever is looked
for in a set or a map is found if and only if something equal is there, also in another order. -/
theorem equal_lawful (a b c : Proper) :
    a.value.equal a = true ∧
    (a.value.equal b = true → b.value.equal a = true) ∧
    (a.value.equal b = true → b.value.equal c = true → a.value.equal c = true) ∧
    (a.value.equal b = true ↔ a.value.SameContent b) ∧
    (a.value.equal b = true → a.value.digest = b.value.digest) ∧
    (∀ hash : List Mark → UInt64, sameHashed hash = sameKey) ∧
    (∀ s : Proper, (s.value.contains a = true ↔ ∃ x ∈ s.value.items, a.value.equal x = true) ∧
      (s.value.contains a = true ↔ ∃ x ∈ s.value.items, a.value.SameContent x)) ∧
    ∀ (m : Proper) (v : Value),
      (m.value.get? a = some v ↔ ∃ e ∈ m.value.entries, a.value.equal e.1 = true ∧ e.2 = v) ∧
      (m.value.get? a = some v ↔ ∃ e ∈ m.value.entries, a.value.SameContent e.1 ∧ e.2 = v) := by
  obtain ⟨⟨a, ha⟩, ⟨b, hb⟩, ⟨c, hc⟩⟩ := a, b, c
  refine ⟨(equal_iff_sameContent ha ha).mpr (sameContent_self ha),
    lawfulOn_wellFormed.symm a b ha hb, lawfulOn_wellFormed.trans a b c ha hb hc,
    equal_iff_sameContent ha hb, digest_eq_of_equal, sameHashed_eq_sameKey, fun s => ?_,
    fun m v => ?_⟩
  · have hcontent : ∀ x ∈ s.value.items, (a.equal x = true ↔ a.SameContent x) := fun x hm =>
      equal_iff_sameContent ha (s.wellFormed.items x hm)
    rw [contains_iff]
    exact ⟨Iff.rfl, exists_congr fun x => and_congr_right (hcontent x)⟩
  · have hcontent : ∀ e ∈ m.value.entries, (a.equal e.1 = true ↔ a.SameContent e.1) := fun e he =>
      equal_iff_sameContent ha (m.wellFormed.keys e he)
    rw [get?_eq_some_iff m.wellFormed ha]
    exact ⟨Iff.rfl, exists_congr fun e => and_congr_right fun he => and_congr_left' (hcontent e he)⟩

def nested : Proper :=
  .setOf Native.hashSet [.setOf Native.hashSet [.int 1, .int 2],
    .mapOf Native.hashMap [(.text "one", .int 1), (.text "two", .int 2)]]

def nestedReordered : Proper :=
  .setOf Native.linkedHashSet [
    .mapOf Native.linkedHashMap [(.text "two", .int 2), (.text "one", .int 1)],
    .setOf Native.linkedHashSet [.int 2, .int 1]]

lemma value_nested : nested.value =
    .set Native.hashSet [.set Native.hashSet [.int 1, .int 2],
      .map Native.hashMap [(.text "one", .int 1), (.text "two", .int 2)]] := by
  rfl

lemma value_nestedReordered : nestedReordered.value =
    .set Native.linkedHashSet [
      .map Native.linkedHashMap [(.text "two", .int 2), (.text "one", .int 1)],
      .set Native.linkedHashSet [.int 2, .int 1]] := by
  rfl

lemma sameContent_nested : nestedReordered.value.SameContent nested := by
  rw [value_nestedReordered, value_nested]
  refine .set _ _ (.swap _ _ _) (.cons ?map (.cons ?set .nil))
  case map =>
    exact .map _ _ (.swap _ _ _) (.cons (.text "two") (.cons (.text "one") .nil))
      (.cons (.int 2) (.cons (.int 1) .nil))
  case set => exact .set _ _ (.swap _ _ _) (.cons (.int 2) (.cons (.int 1) .nil))

/-- A set that has a nested set as a member contains it in any order. -/
theorem equal_lawful_nested : nestedReordered.value.equal nested = true ∧
    (Proper.setOf Native.hashSet [.null, nested]).value.contains nestedReordered = true := by
  obtain ⟨-, -, -, hcontent, -, -, hcontains, -⟩ := equal_lawful nestedReordered nested nested
  have hitems : (Proper.setOf Native.hashSet [.null, nested]).value.items = [.null, nested.value] :=
    rfl
  have hmember : ∃ x ∈ [.null, nested.value], nestedReordered.value.SameContent x :=
    ⟨nested.value, by simp, sameContent_nested⟩
  exact ⟨hcontent.mpr sameContent_nested, (hcontains _).2.mpr (hitems.symm ▸ hmember)⟩

end ForeignCollections.Value
