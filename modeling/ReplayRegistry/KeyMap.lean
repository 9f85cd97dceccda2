/-!
# Finite maps keyed by text

A finite map is kept as a list of bindings in strictly increasing key order, so two maps with the
same bindings are the same value. Keys are compared code point by code point, which on UTF-8 text
is byte order.
-/

namespace ReplayRegistry

/-- A finite map from text keys to values. -/
structure KeyMap (α : Type) where
  /-- The bindings in key order. -/
  entries : List (String × α)
  /-- Every key is bound once, and the keys increase. -/
  sorted : entries.Pairwise fun a b => a.1 < b.1

namespace KeyMap

variable {α : Type}

def empty : KeyMap α := ⟨[], List.Pairwise.nil⟩

instance : EmptyCollection (KeyMap α) := ⟨empty⟩

def get? (m : KeyMap α) (k : String) : Option α := m.entries.lookup k

def contains (m : KeyMap α) (k : String) : Bool := (m.get? k).isSome

def keys (m : KeyMap α) : List String := m.entries.map Prod.fst

def values (m : KeyMap α) : List α := m.entries.map Prod.snd

def size (m : KeyMap α) : Nat := m.entries.length

/-- Bind `k` to `v` in a sorted list of bindings, replacing what it was bound to. -/
def insertEntry (k : String) (v : α) : List (String × α) → List (String × α)
  | [] => [(k, v)]
  | e :: es =>
    if k < e.1 then (k, v) :: e :: es
    else if e.1 < k then e :: insertEntry k v es
    else (k, v) :: es

theorem mem_insertEntry {k : String} {v : α} {e : String × α} :
    ∀ {es : List (String × α)}, e ∈ insertEntry k v es → e = (k, v) ∨ e ∈ es
  | [], h => by simpa [insertEntry] using h
  | f :: fs, h => by
    unfold insertEntry at h
    split at h
    · simpa using h
    · split at h
      · rcases List.mem_cons.1 h with rfl | h
        · simp
        · rcases mem_insertEntry h with h | h <;> simp [h]
      · rcases List.mem_cons.1 h with h | h <;> simp [h]

theorem eq_of_not_lt {a b : String} (h : ¬ a < b) (h' : ¬ b < a) : a = b :=
  String.le_antisymm (String.not_lt.1 h') (String.not_lt.1 h)

theorem sorted_insertEntry (k : String) (v : α) :
    ∀ {es : List (String × α)}, es.Pairwise (fun a b => a.1 < b.1) →
      (insertEntry k v es).Pairwise fun a b => a.1 < b.1
  | [], _ => by simp [insertEntry]
  | f :: fs, h => by
    obtain ⟨hf, hfs⟩ := List.pairwise_cons.1 h
    unfold insertEntry
    split
    · rename_i hk
      refine List.pairwise_cons.2 ⟨?_, h⟩
      intro e he
      rcases List.mem_cons.1 he with rfl | he
      · exact hk
      · exact String.lt_trans hk (hf e he)
    · split
      · rename_i hk
        refine List.pairwise_cons.2 ⟨?_, sorted_insertEntry k v hfs⟩
        intro e he
        rcases mem_insertEntry he with rfl | he
        · exact hk
        · exact hf e he
      · rename_i h₁ h₂
        have hk : k = f.1 := eq_of_not_lt h₁ h₂
        exact List.pairwise_cons.2 ⟨fun e he => hk ▸ hf e he, hfs⟩

def insert (m : KeyMap α) (k : String) (v : α) : KeyMap α :=
  ⟨insertEntry k v m.entries, sorted_insertEntry k v m.sorted⟩

def erase (m : KeyMap α) (k : String) : KeyMap α :=
  ⟨m.entries.filter fun e => e.1 != k, m.sorted.filter _⟩

/-! ## Looking up after a change -/

theorem lookup_cons_eq_ite (k : String) (e : String × α) (es : List (String × α)) :
    (e :: es).lookup k = if k = e.1 then some e.2 else es.lookup k := by
  obtain ⟨k', v⟩ := e
  by_cases h : k = k'
  · simp [h]
  · simp [List.lookup_cons, beq_false_of_ne h, h]

theorem lookup_insertEntry (k k' : String) (v : α) :
    ∀ {es : List (String × α)}, es.Pairwise (fun a b => a.1 < b.1) →
      (insertEntry k v es).lookup k' = if k' = k then some v else es.lookup k'
  | [], _ => by simp [insertEntry, lookup_cons_eq_ite]
  | f :: fs, h => by
    unfold insertEntry
    split
    · rw [lookup_cons_eq_ite]
    · rename_i h₁
      split
      · rename_i h₂
        have hne : k ≠ f.1 := fun e => String.lt_irrefl _ (e ▸ h₂)
        have ih := lookup_insertEntry k k' v (List.pairwise_cons.1 h).2
        rw [lookup_cons_eq_ite, lookup_cons_eq_ite, ih]
        by_cases h' : k' = k <;> simp [h', hne]
      · rename_i h₂
        have hk : k = f.1 := eq_of_not_lt h₁ h₂
        rw [lookup_cons_eq_ite, lookup_cons_eq_ite]
        by_cases h' : k' = k <;> simp [h', ← hk]

@[simp] theorem get?_empty (k : String) : (empty : KeyMap α).get? k = none := rfl

theorem get?_insert (m : KeyMap α) (k k' : String) (v : α) :
    (m.insert k v).get? k' = if k' = k then some v else m.get? k' :=
  lookup_insertEntry k k' v m.sorted

theorem lookup_filter_ne (k k' : String) :
    ∀ es : List (String × α),
      (es.filter fun e => e.1 != k).lookup k' = if k' = k then none else es.lookup k'
  | [] => by simp
  | f :: fs => by
    have ih := lookup_filter_ne k k' fs
    by_cases hf : f.1 = k
    · rw [List.filter_cons_of_neg (by simp [hf]), ih, lookup_cons_eq_ite, hf]
      by_cases h' : k' = k <;> simp [h']
    · rw [List.filter_cons_of_pos (by simp [hf]), lookup_cons_eq_ite, lookup_cons_eq_ite, ih]
      by_cases h' : k' = k
      · simp [h', Ne.symm hf]
      · simp [h']

theorem get?_erase (m : KeyMap α) (k k' : String) :
    (m.erase k).get? k' = if k' = k then none else m.get? k' :=
  lookup_filter_ne k k' m.entries

/-- A key below all keys of a list of bindings is not bound. -/
theorem lookup_eq_none_of_lt {k : String} :
    ∀ {es : List (String × α)}, (∀ e ∈ es, k < e.1) → es.lookup k = none
  | [], _ => rfl
  | e :: es, h => by
    have hk : k ≠ e.1 := fun hk => String.lt_irrefl _ (hk ▸ h e (by simp) : k < k)
    rw [lookup_cons_eq_ite, if_neg hk]
    exact lookup_eq_none_of_lt fun f hf => h f (by simp [hf])

/-- Sorted lists of bindings that bind the same keys to the same values are equal. -/
theorem eq_of_lookup_eq :
    ∀ {es fs : List (String × α)}, es.Pairwise (fun a b => a.1 < b.1) →
      fs.Pairwise (fun a b => a.1 < b.1) → (∀ k, es.lookup k = fs.lookup k) → es = fs
  | [], [], _, _, _ => rfl
  | [], f :: fs, _, _, h => by simpa [lookup_cons_eq_ite] using h f.1
  | e :: es, [], _, _, h => by simpa [lookup_cons_eq_ite] using h e.1
  | e :: es, f :: fs, hes, hfs, h => by
    obtain ⟨he, hes⟩ := List.pairwise_cons.1 hes
    obtain ⟨hf, hfs⟩ := List.pairwise_cons.1 hfs
    have hef : ¬ e.1 < f.1 := by
      intro hlt
      have hnone : (f :: fs).lookup e.1 = none := lookup_eq_none_of_lt fun g hg => by
        rcases List.mem_cons.1 hg with rfl | hg
        · exact hlt
        · exact String.lt_trans hlt (hf g hg)
      simpa [lookup_cons_eq_ite, hnone] using (h e.1).trans hnone
    have hfe : ¬ f.1 < e.1 := by
      intro hlt
      have hnone : (e :: es).lookup f.1 = none := lookup_eq_none_of_lt fun g hg => by
        rcases List.mem_cons.1 hg with rfl | hg
        · exact hlt
        · exact String.lt_trans hlt (he g hg)
      simpa [lookup_cons_eq_ite, hnone] using (h f.1).symm.trans hnone
    have hkey : e.1 = f.1 := eq_of_not_lt hef hfe
    have hval : e.2 = f.2 := by simpa [lookup_cons_eq_ite, hkey] using h e.1
    have htail : es = fs := eq_of_lookup_eq hes hfs fun k => by
      by_cases hk : k = e.1
      · rw [hk, lookup_eq_none_of_lt he, hkey, lookup_eq_none_of_lt hf]
      · simpa [lookup_cons_eq_ite, hk, ← hkey] using h k
    rw [htail, Prod.ext hkey hval]

/-- Maps with the same bindings are equal. -/
theorem ext_get? {m m' : KeyMap α} (h : ∀ k, m.get? k = m'.get? k) : m = m' := by
  cases m with | mk es hes => cases m' with | mk fs hfs =>
  have : es = fs := eq_of_lookup_eq hes hfs h
  subst this
  rfl

/-! ## Bindings -/

/-- In a sorted list of bindings, a key is bound to a value just if the list holds the binding. -/
theorem lookup_eq_some_iff {k : String} {v : α} :
    ∀ {es : List (String × α)}, es.Pairwise (fun a b => a.1 < b.1) →
      (es.lookup k = some v ↔ (k, v) ∈ es)
  | [], _ => by simp
  | e :: es, h => by
    obtain ⟨he, hes⟩ := List.pairwise_cons.1 h
    rw [lookup_cons_eq_ite, List.mem_cons]
    by_cases hk : k = e.1
    · have hnot : (k, v) ∉ es := fun hmem => String.lt_irrefl _ (hk ▸ he (k, v) hmem : e.1 < e.1)
      rw [if_pos hk, or_iff_left hnot, Option.some.injEq, Prod.ext_iff]
      exact ⟨fun hv => ⟨hk, hv.symm⟩, fun hv => hv.2.symm⟩
    · have hne : (k, v) ≠ e := fun heq => hk (congrArg Prod.fst heq)
      rw [if_neg hk, or_iff_right hne]
      exact lookup_eq_some_iff hes

theorem mem_entries_iff {m : KeyMap α} {k : String} {v : α} :
    (k, v) ∈ m.entries ↔ m.get? k = some v := (lookup_eq_some_iff m.sorted).symm

theorem mem_keys_iff {m : KeyMap α} {k : String} : k ∈ m.keys ↔ ∃ v, m.get? k = some v := by
  constructor
  · intro h
    obtain ⟨⟨k', v⟩, hmem, rfl⟩ := List.mem_map.1 h
    exact ⟨v, mem_entries_iff.1 hmem⟩
  · rintro ⟨v, hv⟩
    exact List.mem_map.2 ⟨(k, v), mem_entries_iff.2 hv, rfl⟩

theorem mem_values_iff {m : KeyMap α} {v : α} : v ∈ m.values ↔ ∃ k, m.get? k = some v := by
  constructor
  · intro h
    obtain ⟨⟨k, v'⟩, hmem, rfl⟩ := List.mem_map.1 h
    exact ⟨k, mem_entries_iff.1 hmem⟩
  · rintro ⟨k, hv⟩
    exact List.mem_map.2 ⟨(k, v), mem_entries_iff.2 hv, rfl⟩

/-- No key is bound twice. -/
theorem nodup_keys (m : KeyMap α) : m.keys.Nodup := by
  refine List.pairwise_map.2 (m.sorted.imp ?_)
  intro a b hlt heq
  exact String.lt_irrefl _ (heq ▸ hlt)

@[simp] theorem length_values (m : KeyMap α) : m.values.length = m.size := List.length_map ..

@[simp] theorem get?_insert_self (m : KeyMap α) (k : String) (v : α) :
    (m.insert k v).get? k = some v := by simp [get?_insert]

@[simp] theorem get?_erase_self (m : KeyMap α) (k : String) : (m.erase k).get? k = none := by
  simp [get?_erase]

end KeyMap

end ReplayRegistry
