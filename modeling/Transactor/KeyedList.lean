namespace Transactor

structure KeyedList (κ α : Type) where
  entries : List (κ × α)
  nodup : (entries.map Prod.fst).Nodup

namespace KeyedList

variable {κ α : Type}

theorem eq_of_entries {m n : KeyedList κ α} (h : m.entries = n.entries) : m = n := by
  cases m with
  | mk entries nodup =>
    cases n with
    | mk entries' nodup' =>
      cases h
      rfl

variable [DecidableEq κ]

def empty : KeyedList κ α := ⟨[], List.nodup_nil⟩

instance : EmptyCollection (KeyedList κ α) := ⟨empty⟩

instance : Inhabited (KeyedList κ α) := ⟨empty⟩

def keys (m : KeyedList κ α) : List κ := m.entries.map Prod.fst

def size (m : KeyedList κ α) : Nat := m.entries.length

def get? (m : KeyedList κ α) (k : κ) : Option α :=
  (m.entries.find? fun e => e.1 = k).map Prod.snd

def getD (m : KeyedList κ α) (k : κ) (default : α) : α := (m.get? k).getD default

def contains (m : KeyedList κ α) (k : κ) : Bool := m.entries.any fun e => e.1 = k

/-- Puts a value under a key; the key keeps its place if it is known. -/
def insert (m : KeyedList κ α) (k : κ) (v : α) : KeyedList κ α where
  entries :=
    if m.contains k then m.entries.map fun e => if e.1 = k then (k, v) else e
    else m.entries ++ [(k, v)]
  nodup := by
    have key : ∀ l : List (κ × α),
        (l.map fun e => if e.1 = k then (k, v) else e).map Prod.fst = l.map Prod.fst := by
      intro l
      induction l with
      | nil => rfl
      | cons e l ih => by_cases h : e.1 = k <;> simp_all
    split
    · rw [key]
      exact m.nodup
    · rename_i h
      simp only [contains, List.any_eq_true, decide_eq_true_eq, not_exists, not_and] at h
      simp only [List.map_append, List.map_cons, List.map_nil, List.nodup_append, m.nodup,
        List.nodup_cons, List.not_mem_nil, not_false_eq_true, List.nodup_nil, and_self,
        List.mem_map, List.mem_cons, or_false, forall_eq, true_and]
      rintro x ⟨e, he, rfl⟩
      exact h e he

def erase (m : KeyedList κ α) (k : κ) : KeyedList κ α where
  entries := m.entries.filter fun e => e.1 ≠ k
  nodup := List.Nodup.sublist (List.filter_sublist.map _) m.nodup

@[simp] theorem get?_empty (k : κ) : (∅ : KeyedList κ α).get? k = none := rfl

theorem find?_map_replace (l : List (κ × α)) (k j : κ) (v : α) :
    ((l.map fun e => if e.1 = k then (k, v) else e).find? fun e => e.1 = j).map Prod.snd =
      if j = k then (l.find? fun e => e.1 = k).map fun _ => v
      else (l.find? fun e => e.1 = j).map Prod.snd := by
  induction l with
  | nil => simp
  | cons e l ih =>
    by_cases hk : e.1 = k
    · by_cases hj : j = k
      · subst hj; simp [hk]
      · have : k ≠ j := fun h => hj h.symm
        simp only [List.map_cons, hk, ↓reduceIte, List.find?_cons, this, decide_false, ih, hj]
    · by_cases hj : e.1 = j
      · have : j ≠ k := fun h => hk (hj.trans h)
        simp [hj, this]
      · simp only [List.map_cons, hk, ↓reduceIte, List.find?_cons, hj, decide_false, ih]

theorem find?_eq_none_of_contains {m : KeyedList κ α} {k : κ} (h : m.contains k = false) :
    (m.entries.find? fun e => e.1 = k) = none := by
  simpa [contains] using h

theorem get?_insert (m : KeyedList κ α) (k j : κ) (v : α) :
    (m.insert k v).get? j = if j = k then some v else m.get? j := by
  unfold get? insert
  by_cases h : m.contains k
  · simp only [h, ↓reduceIte, find?_map_replace]
    have hs : (m.entries.find? fun e => e.1 = k).isSome := by
      simpa [contains] using h
    obtain ⟨e, he⟩ := Option.isSome_iff_exists.mp hs
    simp [he]
  · simp only [Bool.not_eq_true] at h
    have hn := find?_eq_none_of_contains h
    by_cases hj : j = k
    · subst hj
      simp [h, List.find?_append, hn]
    · have : k ≠ j := fun e => hj e.symm
      simp [h, List.find?_append, hj, this]

@[simp] theorem get?_insert_self (m : KeyedList κ α) (k : κ) (v : α) :
    (m.insert k v).get? k = some v := by
  simp [get?_insert]

theorem get?_insert_of_ne (m : KeyedList κ α) {k j : κ} (v : α) (h : j ≠ k) :
    (m.insert k v).get? j = m.get? j := by
  simp [get?_insert, h]

theorem get?_erase (m : KeyedList κ α) (k j : κ) :
    (m.erase k).get? j = if j = k then none else m.get? j := by
  unfold get? erase
  simp only [List.find?_filter]
  by_cases hj : j = k
  · subst hj
    simp only [↓reduceIte, Option.map_eq_none_iff, List.find?_eq_none]
    simp
  · simp only [hj, ↓reduceIte]
    congr 2
    funext e
    by_cases he : e.1 = j
    · simp [he, hj]
    · simp [he]

@[simp] theorem get?_erase_self (m : KeyedList κ α) (k : κ) : (m.erase k).get? k = none := by
  simp [get?_erase]

theorem contains_eq_isSome (m : KeyedList κ α) (k : κ) : m.contains k = (m.get? k).isSome := by
  rw [get?, Option.isSome_map, contains, Bool.eq_iff_iff]
  simp

theorem insert_insert (m : KeyedList κ α) (k : κ) (v v' : α) :
    (m.insert k v).insert k v' = m.insert k v' := by
  have hreplace (l : List (κ × α)) :
      (l.map fun e => if e.1 = k then (k, v) else e).map (fun e => if e.1 = k then (k, v') else e) =
        l.map fun e => if e.1 = k then (k, v') else e := by
    rw [List.map_map]
    apply List.map_congr_left
    intro e _
    by_cases he : e.1 = k <;> simp [he]
  have hc : (m.insert k v).contains k = true := by
    rw [contains_eq_isSome, get?_insert_self, Option.isSome_some]
  have hentries : ((m.insert k v).insert k v').entries = (m.insert k v').entries := by
    change (if (m.insert k v).contains k = true then _ else _) = _
    rw [if_pos hc]
    cases hm : m.contains k with
    | true => simp only [insert, hm, ↓reduceIte, hreplace]
    | false =>
      have hsame : m.entries.map (fun e => if e.1 = k then (k, v') else e) = m.entries.map id := by
        apply List.map_congr_left
        intro e he
        have hnone := List.find?_eq_none.mp (find?_eq_none_of_contains hm) e he
        have hne : e.1 ≠ k := by simpa using hnone
        exact if_neg hne
      simp [insert, hm, hsame]
  exact eq_of_entries hentries

end KeyedList

end Transactor
