import Mathlib.Data.List.Basic
import Mathlib.Logic.Function.Basic
import Transactor.Error

namespace Transactor.Shop

/-- What a transaction has succeeded in. A history lists the newest success first. -/
inductive Success where
  | reserved (t : TransactionId) (item : Uuid) (units : Nat)
  | committed (t : TransactionId)
  deriving DecidableEq

variable {item : Uuid} {t : TransactionId} {es : List Success}

/-- The units of an item that transactions of a kind have reserved. -/
def unitsOf (item : Uuid) (p : TransactionId → Bool) : List Success → Nat
  | [] => 0
  | .reserved t id n :: es => (if id = item ∧ p t then n else 0) + unitsOf item p es
  | .committed _ :: es => unitsOf item p es

/-- The units of an item that a transaction has reserved. -/
def drawn (item : Uuid) (t : TransactionId) (es : List Success) : Nat :=
  unitsOf item (fun x => x = t) es

/-- The units of an item that were reserved by transactions that have committed. -/
def sold (item : Uuid) (es : List Success) : Nat :=
  unitsOf item (fun x => .committed x ∈ es) es

/-- Since a transaction reserved units of an item, another one has committed some. -/
def Outdated (item : Uuid) (t : TransactionId) (es : List Success) : Prop :=
  ∃ u n k, u ≠ t ∧ .reserved u item k ∈ es ∧
    [.committed u, .reserved t item n].Sublist es

/-- A transaction has committed units of an item although another one had done so since it reserved
them. -/
def Overtaken (item : Uuid) (es : List Success) : Prop :=
  ∃ t u n k, u ≠ t ∧ .reserved u item k ∈ es ∧
    [.committed t, .committed u, .reserved t item n].Sublist es

/-- Nothing is reserved by a transaction that has committed, nor is it committed again; and no
reservation is empty. -/
inductive Orderly : List Success → Prop
  | nil : Orderly []
  | reserved {es : List Success} {t : TransactionId} (h : Orderly es) (hopen : .committed t ∉ es)
      (item : Uuid) {n : Nat} (hn : 0 < n) : Orderly (.reserved t item n :: es)
  | committed {es : List Success} {t : TransactionId} (h : Orderly es)
      (hopen : .committed t ∉ es) : Orderly (.committed t :: es)

/-- The committed counts of all items, and the counts that transactions have drawn up. -/
structure Ledger where
  counts : Uuid → Nat
  drafts : TransactionId → Uuid → Option Nat

namespace Ledger

def seen (l : Ledger) (t : TransactionId) (item : Uuid) : Nat :=
  (l.drafts t item).getD (l.counts item)

def enter (l : Ledger) : Success → Ledger
  | .reserved t item n =>
    let draft := Function.update (l.drafts t) item (some (l.seen t item + n))
    { l with drafts := Function.update l.drafts t draft }
  | .committed t => ⟨l.seen t, Function.update l.drafts t fun _ => none⟩

/-- The ledger after a history. -/
def after (counts : Uuid → Nat) : List Success → Ledger
  | [] => ⟨counts, fun _ _ => none⟩
  | e :: es => (after counts es).enter e

variable (l : Ledger)

theorem seen_of_draft {n : Nat} (h : l.drafts t item = some n) : l.seen t item = n := by
  rw [seen, h, Option.getD_some]

theorem seen_of_none (h : l.drafts t item = none) : l.seen t item = l.counts item := by
  rw [seen, h, Option.getD_none]

theorem drafts_reserved_self (n : Nat) :
    (l.enter (.reserved t item n)).drafts t item = some (l.seen t item + n) := by
  simp [enter]

theorem drafts_reserved_of_ne {x : TransactionId} {id : Uuid} (n : Nat)
    (h : x ≠ t ∨ id ≠ item) : (l.enter (.reserved t item n)).drafts x id = l.drafts x id := by
  by_cases hx : x = t
  · subst hx
    have hid : id ≠ item := h.resolve_left fun he => he rfl
    simp [enter, hid]
  · simp [enter, hx]

theorem seen_reserved_self (n : Nat) :
    (l.enter (.reserved t item n)).seen t item = l.seen t item + n :=
  seen_of_draft _ (l.drafts_reserved_self n)

theorem seen_reserved_of_ne {x : TransactionId} {id : Uuid} (n : Nat) (h : x ≠ t ∨ id ≠ item) :
    (l.enter (.reserved t item n)).seen x id = l.seen x id := by
  rw [seen, l.drafts_reserved_of_ne n h, seen]
  rfl

theorem drafts_committed_of_ne {x : TransactionId} (h : x ≠ t) :
    (l.enter (.committed t)).drafts x = l.drafts x := Function.update_of_ne h _ _

theorem drafts_committed_self : (l.enter (.committed t)).drafts t item = none := by
  simp [enter]

/-- After a commit everyone sees what he saw, or what was committed. -/
theorem seen_committed_le {n : Nat} (h : ∀ x, l.seen x item ≤ n) (x : TransactionId) :
    (l.enter (.committed t)).seen x item ≤ n := by
  cases hd : (l.enter (.committed t)).drafts x item with
  | none =>
    rw [seen_of_none _ hd]
    exact h t
  | some d =>
    have hx : x ≠ t := by
      rintro rfl
      rw [drafts_committed_self] at hd
      cases hd
    rw [seen_of_draft _ hd]
    rw [l.drafts_committed_of_ne hx] at hd
    rw [← l.seen_of_draft hd]
    exact h x

end Ledger

section Units

variable (item) (p q : TransactionId → Bool)

theorem unitsOf_congr (h : ∀ t id n, .reserved t id n ∈ es → p t = q t) :
    unitsOf item p es = unitsOf item q es := by
  induction es with
  | nil => rfl
  | cons e es ih =>
    have hes := ih fun t id n hm => h t id n (.tail _ hm)
    cases e with
    | committed t => exact hes
    | reserved t id n => rw [unitsOf, unitsOf, hes, h t id n (.head _)]

theorem unitsOf_or (h : ∀ t, p t = true → q t = false) :
    unitsOf item (fun t => p t || q t) es = unitsOf item p es + unitsOf item q es := by
  induction es with
  | nil => rfl
  | cons e es ih =>
    cases e with
    | committed t => exact ih
    | reserved t id n =>
      have ht := h t
      rw [unitsOf, unitsOf, unitsOf, ih]
      grind

end Units

theorem drawn_reserved (item : Uuid) (x t : TransactionId) (id : Uuid) (n : Nat) :
    drawn item x (.reserved t id n :: es) =
      (if id = item ∧ t = x then n else 0) + drawn item x es := by
  simp [drawn, unitsOf]

theorem drawn_committed (item : Uuid) (x t : TransactionId) :
    drawn item x (.committed t :: es) = drawn item x es := rfl

theorem sold_reserved (item : Uuid) {id : Uuid} {n : Nat} (h : .committed t ∉ es) :
    sold item (.reserved t id n :: es) = sold item es := by
  simp [sold, unitsOf, h]

theorem sold_committed (item : Uuid) (h : .committed t ∉ es) :
    sold item (.committed t :: es) = sold item es + drawn item t es := by
  have hor : unitsOf item (fun x => decide (.committed x ∈ es) || decide (x = t)) es =
      sold item es + drawn item t es := by
    apply unitsOf_or
    intro x hx
    have hne : x ≠ t := by
      rintro rfl
      exact h (of_decide_eq_true hx)
    exact decide_eq_false hne
  rw [← hor, sold, unitsOf]
  apply unitsOf_congr
  intro x id n _
  simp only [List.mem_cons, Success.committed.injEq]
  grind

/-- The transactions that have reserved units of an item are those whose units count. -/
theorem Orderly.drawn_pos (h : Orderly es) (item : Uuid) (t : TransactionId) :
    0 < drawn item t es ↔ ∃ n, .reserved t item n ∈ es := by
  induction h with
  | nil => simp [drawn, unitsOf]
  | reserved _ _ id hn ih =>
    rw [drawn_reserved]
    simp only [List.mem_cons, Success.reserved.injEq, exists_or, ← ih]
    grind
  | committed _ _ ih => simpa [drawn_committed] using ih

section Order

variable {u x : TransactionId} {id : Uuid} {n k : Nat}

theorem reserved_mem_cons (ht : .committed t ∉ es) (hu : .committed u ∈ es) :
    .reserved u item k ∈ .reserved t id n :: es ↔ .reserved u item k ∈ es := by
  constructor
  · intro hm
    obtain _ | ⟨_, hm⟩ := hm
    · exact absurd hu ht
    · exact hm
  · exact .tail _

theorem committed_of_sublist {fs : List Success} (h : (.committed u :: fs).Sublist es) :
    .committed u ∈ es := h.subset (.head _)

theorem sublist_reserved {fs : List Success} :
    (.committed u :: fs).Sublist (.reserved t id n :: es) ↔ (.committed u :: fs).Sublist es := by
  simp [List.cons_sublist_cons']

theorem outdated_reserved (hopen : .committed t ∉ es) :
    Outdated item x (.reserved t id n :: es) ↔ Outdated item x es := by
  unfold Outdated
  simp only [sublist_reserved]
  constructor
  · rintro ⟨u, m, k, hu, hm, hs⟩
    exact ⟨u, m, k, hu, (reserved_mem_cons hopen (committed_of_sublist hs)).mp hm, hs⟩
  · rintro ⟨u, m, k, hu, hm, hs⟩
    exact ⟨u, m, k, hu, .tail _ hm, hs⟩

theorem overtaken_reserved (hopen : .committed t ∉ es) :
    Overtaken item (.reserved t id n :: es) ↔ Overtaken item es := by
  unfold Overtaken
  simp only [sublist_reserved]
  constructor
  · rintro ⟨x, u, m, k, hu, hm, hs⟩
    have hu' : .committed u ∈ es := hs.subset (.tail _ (.head _))
    exact ⟨x, u, m, k, hu, (reserved_mem_cons hopen hu').mp hm, hs⟩
  · rintro ⟨x, u, m, k, hu, hm, hs⟩
    exact ⟨x, u, m, k, hu, .tail _ hm, hs⟩

theorem overtaken_committed :
    Overtaken item (.committed t :: es) ↔ Overtaken item es ∨ Outdated item t es := by
  unfold Overtaken Outdated
  constructor
  · rintro ⟨x, u, m, k, hu, hm, hs⟩
    have hm' : .reserved u item k ∈ es := by simpa using hm
    obtain hs' | ⟨he, hs'⟩ := List.cons_sublist_cons'.mp hs
    · exact .inl ⟨x, u, m, k, hu, hm', hs'⟩
    · cases he
      exact .inr ⟨u, m, k, hu, hm', hs'⟩
  · rintro (⟨x, u, m, k, hu, hm, hs⟩ | ⟨u, m, k, hu, hm, hs⟩)
    · exact ⟨x, u, m, k, hu, .tail _ hm, hs.cons _⟩
    · exact ⟨t, u, m, k, hu, .tail _ hm, hs.cons_cons _⟩

theorem Orderly.drawn_of_outdated (h : Orderly es) (ho : Outdated item x es) :
    0 < drawn item x es := by
  obtain ⟨u, n, k, -, -, hs⟩ := ho
  exact (h.drawn_pos item x).mpr ⟨n, hs.subset (.tail _ (.head _))⟩

/-- A commit outdates those who have reserved units of an item that it commits units of. -/
theorem Orderly.outdated_committed (h : Orderly es) (hx : t ≠ x) :
    Outdated item x (.committed t :: es) ↔
      Outdated item x es ∨ 0 < drawn item t es ∧ 0 < drawn item x es := by
  rw [h.drawn_pos, h.drawn_pos]
  unfold Outdated
  constructor
  · rintro ⟨u, m, k, hu, hm, hs⟩
    have hm' : .reserved u item k ∈ es := by simpa using hm
    obtain hs' | ⟨he, hs'⟩ := List.cons_sublist_cons'.mp hs
    · exact .inl ⟨u, m, k, hu, hm', hs'⟩
    · cases he
      exact .inr ⟨⟨k, hm'⟩, m, List.singleton_sublist.mp hs'⟩
  · rintro (⟨u, m, k, hu, hm, hs⟩ | ⟨⟨k, hk⟩, m, hm⟩)
    · exact ⟨u, m, k, hu, .tail _ hm, hs.cons _⟩
    · exact ⟨t, m, k, hx, .tail _ hk, (List.singleton_sublist.mpr hm).cons_cons _⟩

end Order

variable {counts : Uuid → Nat}

/-- What an open transaction counts: at most what has been sold and its own units on top, and
exactly that unless a commit has come in between. -/
structure Share (counts : Uuid → Nat) (item : Uuid) (es : List Success) (t : TransactionId) :
    Prop where
  undrawn : (Ledger.after counts es).drafts t item = none ↔ drawn item t es = 0
  le : (Ledger.after counts es).seen t item ≤ counts item + sold item es + drawn item t es
  eq : (Ledger.after counts es).seen t item = counts item + sold item es + drawn item t es ↔
    ¬Overtaken item es ∧ ¬Outdated item t es

/-- How the ledger stands to what has been sold. -/
structure Balance (counts : Uuid → Nat) (item : Uuid) (es : List Success) : Prop where
  le : (Ledger.after counts es).counts item ≤ counts item + sold item es
  eq : (Ledger.after counts es).counts item = counts item + sold item es ↔ ¬Overtaken item es
  share : ∀ t, .committed t ∉ es → Share counts item es t

theorem Share.reserved_self (h : Share counts item es t) (hopen : .committed t ∉ es) {n : Nat}
    (hn : 0 < n) : Share counts item (.reserved t item n :: es) t := by
  have hle := h.le
  have heq := h.eq
  constructor
  · rw [Ledger.after, Ledger.drafts_reserved_self, drawn_reserved, if_pos ⟨rfl, rfl⟩]
    grind
  · rw [Ledger.after, Ledger.seen_reserved_self, sold_reserved item hopen, drawn_reserved,
      if_pos ⟨rfl, rfl⟩]
    omega
  · rw [Ledger.after, Ledger.seen_reserved_self, sold_reserved item hopen, drawn_reserved,
      if_pos ⟨rfl, rfl⟩, overtaken_reserved hopen, outdated_reserved hopen, ← heq]
    omega

theorem Share.reserved_of_ne {x : TransactionId} {id : Uuid} (h : Share counts item es x)
    (hopen : .committed t ∉ es) (hne : x ≠ t ∨ item ≠ id) (n : Nat) :
    Share counts item (.reserved t id n :: es) x := by
  have hself : ¬(id = item ∧ t = x) := by grind
  have hdrawn : drawn item x (.reserved t id n :: es) = drawn item x es := by
    rw [drawn_reserved, if_neg hself, Nat.zero_add]
  constructor
  · rw [Ledger.after, Ledger.drafts_reserved_of_ne _ _ hne, hdrawn]
    exact h.undrawn
  · rw [Ledger.after, Ledger.seen_reserved_of_ne _ _ hne, sold_reserved item hopen, hdrawn]
    exact h.le
  · rw [Ledger.after, Ledger.seen_reserved_of_ne _ _ hne, sold_reserved item hopen, hdrawn,
      overtaken_reserved hopen, outdated_reserved hopen]
    exact h.eq

theorem Ledger.drafts_after_committed {x : TransactionId} (h : t ≠ x) :
    (after counts (.committed t :: es)).drafts x item = (after counts es).drafts x item :=
  congrFun (drafts_committed_of_ne _ h.symm) item

/-- A transaction without units of the item goes by the new count. -/
theorem Share.committed_undrawn {x : TransactionId} (h : Share counts item es x) (ho : Orderly es)
    (hx : t ≠ x) (hd : (Ledger.after counts es).drafts x item = none)
    (hle : (Ledger.after counts es).seen t item ≤ counts item + sold item (.committed t :: es))
    (heq : (Ledger.after counts es).seen t item = counts item + sold item (.committed t :: es) ↔
      ¬Overtaken item (.committed t :: es)) : Share counts item (.committed t :: es) x := by
  have hzero : drawn item x (.committed t :: es) = 0 := h.undrawn.mp hd
  have hd' : (Ledger.after counts (.committed t :: es)).drafts x item = none :=
    (Ledger.drafts_after_committed hx).trans hd
  have hseen : (Ledger.after counts (.committed t :: es)).seen x item =
      (Ledger.after counts es).seen t item := Ledger.seen_of_none _ hd'
  have hno : ¬Outdated item x (.committed t :: es) := by
    rw [ho.outdated_committed hx]
    rintro (hout | ⟨-, hpos⟩)
    · exact absurd (ho.drawn_of_outdated hout) (Nat.not_lt.mpr (Nat.le_of_eq hzero))
    · exact absurd hpos (Nat.not_lt.mpr (Nat.le_of_eq hzero))
  refine ⟨iff_of_true hd' hzero, ?_, ?_⟩
  · rw [hseen, hzero]
    exact hle
  · rw [hseen, hzero, Nat.add_zero, heq]
    exact (and_iff_left hno).symm

/-- A transaction with units of the item counts on as it did. If the commit brings units of the
item, it is outdated from now on. -/
theorem Share.committed_drawn {x : TransactionId} (h : Share counts item es x) (ho : Orderly es)
    (hopen : .committed t ∉ es) (hx : t ≠ x) {d : Nat}
    (hd : (Ledger.after counts es).drafts x item = some d) :
    Share counts item (.committed t :: es) x := by
  have hle := h.le
  have heq := h.eq
  have hpos : drawn item x es ≠ 0 := by
    intro hzero
    have hnone := h.undrawn.mpr hzero
    rw [hd] at hnone
    cases hnone
  have hd' : (Ledger.after counts (.committed t :: es)).drafts x item = some d :=
    (Ledger.drafts_after_committed hx).trans hd
  have hseen : (Ledger.after counts (.committed t :: es)).seen x item =
      (Ledger.after counts es).seen x item := by
    rw [Ledger.seen_of_draft _ hd', Ledger.seen_of_draft _ hd]
  have hout : Outdated item t es → 0 < drawn item t es := ho.drawn_of_outdated
  refine ⟨?_, ?_, ?_⟩
  · rw [hd']
    exact iff_of_false (Option.some_ne_none d) hpos
  · rw [hseen, sold_committed item hopen, drawn_committed]
    omega
  · rw [hseen, sold_committed item hopen, drawn_committed, overtaken_committed,
      ho.outdated_committed hx]
    by_cases hzero : drawn item t es = 0
    · have hno : ¬Outdated item t es := fun hm => absurd (hout hm) (by omega)
      simp only [hzero, Nat.add_zero, hno, or_false, Nat.lt_irrefl, false_and]
      exact heq
    · refine iff_of_false (by omega) ?_
      rintro ⟨-, hno⟩
      exact hno (.inr ⟨by omega, by omega⟩)

namespace Balance

theorem nil : Balance counts item [] where
  le := Nat.le_refl _
  eq := by simp [Ledger.after, sold, unitsOf, Overtaken]
  share t _ := ⟨by simp [Ledger.after, drawn, unitsOf], Nat.le_refl _,
    by simp [Ledger.after, Ledger.seen, sold, drawn, unitsOf, Overtaken, Outdated]⟩

theorem reserved (h : Balance counts item es) (hopen : .committed t ∉ es) (id : Uuid) {n : Nat}
    (hn : 0 < n) : Balance counts item (.reserved t id n :: es) where
  le := by
    rw [sold_reserved item hopen]
    exact h.le
  eq := by
    rw [sold_reserved item hopen, overtaken_reserved hopen]
    exact h.eq
  share x hx := by
    have hs := h.share x fun hm => hx (.tail _ hm)
    by_cases hself : x = t ∧ item = id
    · obtain ⟨rfl, rfl⟩ := hself
      exact hs.reserved_self hopen hn
    · exact hs.reserved_of_ne hopen (by grind) n

theorem committed (h : Balance counts item es) (ho : Orderly es) (hopen : .committed t ∉ es) :
    Balance counts item (.committed t :: es) := by
  have hle : (Ledger.after counts es).seen t item ≤
      counts item + sold item (.committed t :: es) := by
    rw [sold_committed item hopen, ← Nat.add_assoc]
    exact (h.share t hopen).le
  have heq : (Ledger.after counts es).seen t item =
      counts item + sold item (.committed t :: es) ↔ ¬Overtaken item (.committed t :: es) := by
    rw [sold_committed item hopen, ← Nat.add_assoc, overtaken_committed, not_or]
    exact (h.share t hopen).eq
  refine ⟨hle, heq, ?_⟩
  intro x hx
  have hxt : t ≠ x := by
    rintro rfl
    exact hx (.head _)
  have hs := h.share x fun hm => hx (.tail _ hm)
  cases hd : (Ledger.after counts es).drafts x item with
  | none => exact hs.committed_undrawn ho hxt hd hle heq
  | some d => exact hs.committed_drawn ho hopen hxt hd

end Balance

theorem Orderly.balance (h : Orderly es) (counts : Uuid → Nat) (item : Uuid) :
    Balance counts item es := by
  induction h with
  | nil => exact .nil
  | reserved _ hopen id hn ih => exact ih.reserved hopen id hn
  | committed ho hopen ih => exact ih.committed ho hopen

end Transactor.Shop
