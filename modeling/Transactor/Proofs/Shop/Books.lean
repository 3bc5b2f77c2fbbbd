import Mathlib.Logic.Function.Basic
import Transactor.Shop.Commands

namespace Transactor.Shop

/-- How many units of an item the lines ask for, taken together. -/
def demand : List OrderLine → Uuid → Nat
  | [], _ => 0
  | l :: ls, id => (if l.stockItemId = id then l.quantity.toNat else 0) + demand ls id

theorem demand_eq_zero {ls : List OrderLine} {id : Uuid} (h : ∀ l ∈ ls, l.stockItemId ≠ id) :
    demand ls id = 0 := by
  induction ls with
  | nil => rfl
  | cons l ls ih =>
    rw [List.forall_mem_cons] at h
    rw [demand, if_neg h.1, ih h.2]

theorem demand_append (ls ms : List OrderLine) (id : Uuid) :
    demand (ls ++ ms) id = demand ls id + demand ms id := by
  induction ls with
  | nil => exact (Nat.zero_add _).symm
  | cons l ls ih => rw [List.cons_append, demand, demand, ih, Nat.add_assoc]

structure Product where
  id : Uuid
  sku : String
  onHand : Nat
  reserved : Nat
  deriving DecidableEq

namespace Product

def available (p : Product) : Nat := p.onHand - p.reserved

def reserve (n : Nat) (p : Product) : Product := { p with reserved := p.reserved + n }

theorem available_reserve (p : Product) (n : Nat) : (p.reserve n).available = p.available - n :=
  Nat.sub_add_eq _ _ _

theorem reserve_reserve (p : Product) (m n : Nat) :
    (p.reserve m).reserve n = p.reserve (m + n) := by
  simp only [reserve, Nat.add_assoc]

end Product

abbrev Stock : Type := Uuid → Option Product

/-- Every item that the lines name is there, with as many units as they ask for of it. -/
def Stock.Covers (stock : Stock) (lines : List OrderLine) : Prop :=
  ∀ l ∈ lines, ∃ p ∈ stock l.stockItemId, demand lines l.stockItemId ≤ p.available

instance (stock : Stock) (lines : List OrderLine) : Decidable (stock.Covers lines) := by
  unfold Stock.Covers
  infer_instance

/-- Sets aside what the lines ask for. -/
def Stock.reserve (stock : Stock) (lines : List OrderLine) : Stock := fun id =>
  (stock id).map (Product.reserve (demand lines id))

namespace Stock

variable (stock : Stock) (l : OrderLine) (ls : List OrderLine)

theorem reserve_nil : stock.reserve [] = stock := by
  funext id
  change (stock id).map (Product.reserve 0) = _
  cases stock id <;> rfl

theorem demand_cons (id : Uuid) : demand (l :: ls) id = demand [l] id + demand ls id := rfl

theorem reserve_append (ls ms : List OrderLine) :
    stock.reserve (ls ++ ms) = (stock.reserve ls).reserve ms := by
  funext id
  simp only [reserve, demand_append, Option.map_map]
  congr 1
  funext p
  exact (p.reserve_reserve _ _).symm

theorem reserve_cons : stock.reserve (l :: ls) = (stock.reserve [l]).reserve ls :=
  stock.reserve_append [l] ls

theorem covers_nil : stock.Covers [] := fun _ h => absurd h List.not_mem_nil

/-- Reserving line by line gets through exactly if all lines are covered together. -/
theorem covers_cons : stock.Covers (l :: ls) ↔
    (∃ p ∈ stock l.stockItemId, l.quantity.toNat ≤ p.available) ∧
      (stock.reserve [l]).Covers ls := by
  have hown : demand [l] l.stockItemId = l.quantity.toNat := by
    rw [demand, if_pos rfl]
    rfl
  constructor
  · intro h
    rw [Covers, List.forall_mem_cons] at h
    obtain ⟨⟨p, hp, hle⟩, hrest⟩ := h
    rw [demand_cons, hown] at hle
    refine ⟨⟨p, hp, by omega⟩, ?_⟩
    intro m hm
    obtain ⟨q, hq, hle⟩ := hrest m hm
    refine ⟨q.reserve (demand [l] m.stockItemId), Option.mem_map_of_mem _ hq, ?_⟩
    rw [demand_cons] at hle
    rw [Product.available_reserve]
    omega
  · rintro ⟨⟨p, hp, hle⟩, hrest⟩ m hm
    have hlater : ∀ m ∈ ls, ∃ q ∈ stock m.stockItemId,
        demand ls m.stockItemId ≤ q.available - demand [l] m.stockItemId := by
      intro m hm
      obtain ⟨r, hr, hle⟩ := hrest m hm
      obtain ⟨q, hq, rfl⟩ := Option.map_eq_some_iff.mp hr
      rw [Product.available_reserve] at hle
      exact ⟨q, hq, hle⟩
    by_cases hs : m.stockItemId = l.stockItemId
    · refine ⟨p, by rw [hs]; exact hp, ?_⟩
      rw [hs, demand_cons, hown]
      by_cases hmore : ∃ n ∈ ls, n.stockItemId = l.stockItemId
      · obtain ⟨n, hn, hnl⟩ := hmore
        obtain ⟨q, hq, hle'⟩ := hlater n hn
        rw [hnl] at hq hle'
        rw [hown, Option.mem_unique hq hp] at hle'
        omega
      · rw [demand_eq_zero fun n hn hnl => hmore ⟨n, hn, hnl⟩]
        exact hle
    · have hm' : m ∈ ls := by
        obtain _ | ⟨_, hm⟩ := hm
        · exact absurd rfl hs
        · exact hm
      obtain ⟨q, hq, hle'⟩ := hlater m hm'
      have hzero : demand [l] m.stockItemId = 0 := by
        rw [demand, if_neg fun he => hs he.symm]
        rfl
      refine ⟨q, hq, ?_⟩
      rw [demand_cons, hzero, Nat.zero_add]
      rw [hzero] at hle'
      exact hle'

end Stock

inductive Command where
  | stock (id : Uuid) (sku : String) (onHand : UInt32)
  | place (c : PlaceOrder)
  | cancel (c : CancelOrder)

/-- Why the ideal shop refuses a command. -/
inductive Refusal where
  | invalid
  | unknown (id : Uuid)
  | taken (kind : Kind) (id : Uuid)
  | empty (id : Uuid)
  | uncovered
  | cascade
  deriving DecidableEq

/-- What the journal notes of an order that is announced. -/
def announcedTypes : List String := ["aggregate.post_persisted", "order.placed"]

/-- What the journal notes of lines that are reserved. -/
def reservedTypes (ls : List OrderLine) : List String :=
  ls.flatMap fun _ => ["aggregate.post_updated", "inventory.stock_reserved"]

structure Books where
  orders : Uuid → Option Order
  stock : Stock
  journal : List String

namespace Books

def blank : Books := ⟨fun _ => none, fun _ => none, []⟩

def note (b : Books) (types : List String) : Books := { b with journal := b.journal ++ types }

def addStock (id : Uuid) (sku : String) (onHand : UInt32) : Act Books Refusal Uuid := fun b =>
  if (b.stock id).isSome then (.error (.taken .stockItem id), b)
  else
    let stock := Function.update b.stock id (some ⟨id, sku, onHand.toNat, 0⟩)
    (.ok id, { b with stock }.note ["aggregate.post_persisted"])

/-- Places an order if its lines are covered. Reserving takes a batch of its own after the one that
announces the order; the journal keeps the announcement even if there is no way to go on. -/
def place (batches : Nat) (c : PlaceOrder) : Act Books Refusal Uuid := fun b =>
  if ∃ l ∈ c.lines, l.quantity = 0 then (.error .invalid, b)
  else if (b.orders c.orderId).isSome then (.error (.taken .order c.orderId), b)
  else if c.lines = [] then (.error (.empty c.orderId), b)
  else if ¬b.stock.Covers c.lines then (.error .uncovered, b.note announcedTypes)
  else if batches < 2 then (.error .cascade, b.note announcedTypes)
  else
    let order := ⟨c.orderId, c.customerId, c.lines, .placed⟩
    let orders := Function.update b.orders c.orderId (some order)
    (.ok c.orderId, { b with orders, stock := b.stock.reserve c.lines }.note
      (announcedTypes ++ reservedTypes c.lines))

/-- Cancels an order. What was reserved for it stays so. -/
def cancel (c : CancelOrder) : Act Books Refusal Uuid := fun b =>
  match b.orders c.orderId with
  | none => (.error (.unknown c.orderId), b)
  | some order =>
    if order.status = .cancelled then (.error .invalid, b)
    else
      let orders := Function.update b.orders c.orderId (some { order with status := .cancelled })
      (.ok c.orderId, { b with orders }.note ["aggregate.post_updated", "order.cancelled"])

/-- What a command does to the books, given how many batches one drain may hand over. -/
def apply (batches : Nat) : Command → Act Books Refusal Uuid
  | .stock id sku onHand => addStock id sku onHand
  | .place c => place batches c
  | .cancel c => cancel c

end Books

end Transactor.Shop
