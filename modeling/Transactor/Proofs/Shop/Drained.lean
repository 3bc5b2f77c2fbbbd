import Transactor.Proofs.Shop.Delivered

namespace Transactor.Shop

variable {Q H : Type}

namespace Sees

variable {shelf : Nat} {t : TransactionId} {u : UnitRef} {x y : View} {w v : ShopWorld Q H}

theorem setQueue (h : Sees shelf t u x w) (q : List Message) :
    Sees shelf t u { x with queue := q } (w.setUnit u { w.unit u with queue := q }) := by
  have hs := h.setUnit x.status q (w.unit u).registered
  rw [← h.status] at hs ⊢
  exact hs

theorem handing (h : Sees shelf t u x w) (cycles : Nat) :
    Sees shelf t u { x with queue := [] } (Host.handing u t w cycles) :=
  (h.setQueue []).sameRecords ⟨rfl, rfl, rfl, rfl⟩ rfl rfl

theorem draining (h : Sees shelf t u x w) :
    Sees shelf t u { x with status := .draining } (Host.draining u w) := by
  have hs := h.setUnit .draining x.queue (w.unit u).registered
  rw [← h.queue] at hs ⊢
  exact hs

end Sees

theorem ne_orderPlacedType {ms : List Message} {types : List String}
    (h : ms.map Message.type = types) (ht : orderPlacedType ∉ types) :
    ∀ m ∈ ms, m.type ≠ orderPlacedType := by
  intro m hm he
  apply ht
  rw [← h, ← he]
  exact List.mem_map_of_mem hm

theorem orderPlacedType_notMem_reservedTypes (ls : List OrderLine) :
    orderPlacedType ∉ reservedTypes ls := by
  intro h
  obtain ⟨l, -, hl⟩ := List.mem_flatMap.mp h
  exact absurd hl (by decide)

section Batch

variable {shelf : Nat} {t : TransactionId} {u : UnitRef} {x : View} {w : ShopWorld Q H}

/-- The messages that placing an order puts into a unit. -/
def Announces (c : PlaceOrder) (queue : List Message) : Prop :=
  ∃ n m : Message, queue = [n, m] ∧ n.type = "aggregate.post_persisted" ∧
    m.type = orderPlacedType ∧ placedOrder m =
      .ok ⟨c.orderId, c.customerId, c.lines.map fun l => ⟨l.stockItemId, l.quantity⟩⟩

variable {c : PlaceOrder} {queue : List Message}

/-- The batch that announces an order is noted, and its outcome is that of reserving the lines. -/
theorem Announces.delivered (hc : Announces c queue) (h : Sees shelf t u x w) :
    ∃ (correlation : Uuid) (v : ShopWorld Q H),
      Sees shelf t u { x with journal := x.journal ++ announcedTypes } v ∧
      Dispatcher.inProcess (handlers shelf) queue u w = Task.atOnce
        ((reserveLines shelf u c.orderId correlation
          (c.lines.map fun l => ⟨l.stockItemId, l.quantity⟩)).mapError
          fun e => .rejected e.message) v := by
  obtain ⟨n, m, rfl, hn, hm, he⟩ := hc
  have hne : n.type ≠ orderPlacedType := by
    rw [hn]
    decide
  obtain ⟨d, hd, hs⟩ := h.deliver_other hne [m]
  obtain ⟨correlation, v, hs, hv⟩ := hs.deliver_placed hm he
  rw [hn, hm, List.append_assoc] at hs
  exact ⟨correlation, v, hs, hd.trans hv⟩

theorem Announces.covered (hc : Announces c queue) (h : Sees shelf t u x w)
    (ha : x.status.accepts = true) (hk : Kept x.rows) (hq : ∀ l ∈ c.lines, l.quantity ≠ 0)
    (hcov : x.rows.stock.Covers c.lines) :
    ∃ y v, Dispatcher.inProcess (handlers shelf) queue u w = (.done (), v) ∧
      Sees shelf t u y v ∧
      Reserved { x with journal := x.journal ++ announcedTypes } y c.lines := by
  obtain ⟨correlation, d, hs, hd⟩ := hc.delivered h
  obtain ⟨y, v, hv, hs, hr⟩ := hs.reserveLines_covered ha hk hq hcov c.orderId correlation
  refine ⟨y, v, ?_, hs, hr⟩
  rw [hd, Task.atOnce_apply, Act.mapError_ok hv]
  rfl

theorem Announces.uncovered (hc : Announces c queue) (h : Sees shelf t u x w)
    (ha : x.status.accepts = true) (hk : Kept x.rows) (hq : ∀ l ∈ c.lines, l.quantity ≠ 0)
    (hcov : ¬x.rows.stock.Covers c.lines) :
    ∃ text y v, Dispatcher.inProcess (handlers shelf) queue u w = (.failed (.rejected text), v) ∧
      Sees shelf t u y v ∧ y.settings = x.settings ∧
      y.journal = x.journal ++ announcedTypes := by
  obtain ⟨correlation, d, hs, hd⟩ := hc.delivered h
  obtain ⟨e, y, v, hv, hs, hset, hj⟩ :=
    hs.reserveLines_uncovered ha hk hq hcov c.orderId correlation
  refine ⟨e.message, y, v, ?_, hs, hset, hj⟩
  rw [hd, Task.atOnce_apply, Act.mapError_error hv]
  rfl

end Batch

section Drain

variable {h : Host (Party Q) (Premises H)} {shelf : Nat} {t : TransactionId} {u : UnitRef}
  {x y : View} {w v : ShopWorld Q H}

theorem Sees.drainCycles_empty (hs : Sees shelf t u x w) (hq : x.queue = [])
    (limit left cycles : Nat) :
    ∃ v, h.drainCycles u t limit left cycles w = (.done (), v) ∧ Sees shelf t u x v := by
  have he : { x with queue := [] } = x := by rw [← hq]
  have hv := hs.setQueue []
  rw [he] at hv
  exact ⟨_, Host.drainCycles_empty h u t limit (hs.queue.trans hq), hv⟩

theorem Sees.drain (hs : Sees shelf t u x w) (ha : x.status = .active)
    {r : Except UnitOfWorkError Unit}
    (hc : h.drainCycles u t (max x.settings.maxCycles 1) (max x.settings.maxCycles 1) 0
      (Host.draining u w) = (.ofExcept r, v)) (hy : Sees shelf t u y v) :
    ∃ d, h.drain u w = (.ofExcept r, d) ∧ Sees shelf t u
      { y with status := .drained, queue := if Host.isFailure r then [] else y.queue } d := by
  rw [← hs.owner, ← hs.limit] at hc
  refine ⟨_, Host.drain_active h u (hs.status.trans ha) hc, ?_⟩
  have hv := hy.setUnit .drained (if Host.isFailure r then [] else y.queue) (v.unit u).registered
  rw [← hy.queue] at hv ⊢
  exact hv

variable (hd : h.dispatch = Dispatcher.inProcess (handlers shelf))
include hd

theorem Sees.drainCycles_others (hs : Sees shelf t u x w)
    (hms : ∀ m ∈ x.queue, m.type ≠ orderPlacedType) (limit left cycles : Nat) :
    ∃ v, h.drainCycles u t limit (left + 1) cycles w = (.done (), v) ∧ Sees shelf t u
      { x with queue := [], journal := x.journal ++ x.queue.map Message.type } v := by
  by_cases hq : x.queue = []
  · have he : { x with queue := [], journal := x.journal ++ x.queue.map Message.type } = x := by
      rw [hq, List.map_nil, List.append_nil, ← hq]
    rw [he]
    exact hs.drainCycles_empty hq limit (left + 1) cycles
  · rw [← hs.queue] at hq hms
    obtain ⟨c, hc, hsc⟩ := (hs.handing cycles).deliver_others hms
    rw [← hd] at hc
    obtain ⟨v, hv, hsv⟩ := hsc.drainCycles_empty (h := h) rfl limit left (cycles + 1)
    rw [hs.queue] at hsv
    exact ⟨v, (Host.drainCycles_ok h u t limit hq hc).trans hv, hsv⟩

theorem Sees.drain_others (hs : Sees shelf t u x w) (ha : x.status = .active)
    (hms : ∀ m ∈ x.queue, m.type ≠ orderPlacedType) :
    ∃ v, h.drain u w = (.done (), v) ∧ Sees shelf t u { x with
      status := .drained, queue := [], journal := x.journal ++ x.queue.map Message.type } v := by
  obtain ⟨left, hl⟩ : ∃ left, max x.settings.maxCycles 1 = left + 1 :=
    ⟨max x.settings.maxCycles 1 - 1, by omega⟩
  obtain ⟨c, hc, hsc⟩ := hs.draining.drainCycles_others hd hms (left + 1) left 0
  rw [← hl] at hc
  exact hs.drain (r := .ok ()) ha hc hsc

variable {c : PlaceOrder}

theorem Sees.drainCycles_covered (hs : Sees shelf t u x w) (hc : Announces c x.queue)
    (ha : x.status.accepts = true) (hk : Kept x.rows) (hq : ∀ l ∈ c.lines, l.quantity ≠ 0)
    (hcov : x.rows.stock.Covers c.lines) (limit left cycles : Nat) :
    ∃ y v, h.drainCycles u t limit (left + 1) cycles w =
        h.drainCycles u t limit left (cycles + 1) v ∧ Sees shelf t u y v ∧
      Reserved { x with queue := [], journal := x.journal ++ announcedTypes } y c.lines := by
  have hne : (w.unit u).queue ≠ [] := by
    obtain ⟨n, m, hnm, -⟩ := hc
    rw [hs.queue, hnm]
    exact List.cons_ne_nil n [m]
  rw [← hs.queue] at hc
  obtain ⟨y, v, hv, hsv, hr⟩ := hc.covered (hs.handing cycles) ha hk hq hcov
  rw [← hd] at hv
  exact ⟨y, v, Host.drainCycles_ok h u t limit hne hv, hsv, hr⟩

theorem Sees.drain_covered (hs : Sees shelf t u x w) (hc : Announces c x.queue)
    (ha : x.status = .active) (hk : Kept x.rows) (hq : ∀ l ∈ c.lines, l.quantity ≠ 0)
    (hcov : x.rows.stock.Covers c.lines) (hbatches : 2 ≤ x.settings.maxCycles) :
    ∃ y v, h.drain u w = (.done (), v) ∧ Sees shelf t u y v ∧ y.settings = x.settings ∧
      y.journal = x.journal ++ announcedTypes ++ reservedTypes c.lines ∧ Kept y.rows ∧
      y.rows .order = x.rows .order ∧ y.rows.stock = x.rows.stock.reserve c.lines := by
  obtain ⟨left, hl⟩ : ∃ left, max x.settings.maxCycles 1 = left + 1 + 1 :=
    ⟨max x.settings.maxCycles 1 - 2, by omega⟩
  obtain ⟨y, d, hfirst, hsd, hr⟩ := hs.draining.drainCycles_covered hd hc rfl hk hq hcov
    (left + 1 + 1) (left + 1) 0
  obtain ⟨ms, hms, htypes⟩ := hr.queue
  rw [List.nil_append] at hms
  rw [← hms] at htypes
  have hothers := ne_orderPlacedType htypes (orderPlacedType_notMem_reservedTypes c.lines)
  obtain ⟨v, hsecond, hsv⟩ := hsd.drainCycles_others hd hothers (left + 1 + 1) left 1
  rw [htypes, hr.journal] at hsv
  rw [← hl] at hfirst hsecond
  obtain ⟨z, hz, hsz⟩ := hs.drain (r := .ok ()) ha (hfirst.trans hsecond) hsv
  exact ⟨_, z, hz, hsz, hr.settings, rfl, hr.kept, hr.orders, hr.stock⟩

theorem Sees.drain_cascade (hs : Sees shelf t u x w) (hc : Announces c x.queue)
    (ha : x.status = .active) (hk : Kept x.rows) (hq : ∀ l ∈ c.lines, l.quantity ≠ 0)
    (hcov : x.rows.stock.Covers c.lines) (hlines : c.lines ≠ [])
    (hbatches : x.settings.maxCycles < 2) :
    ∃ y v, h.drain u w = (.failed (.cascadeLimit t 1), v) ∧ Sees shelf t u y v ∧
      y.settings = x.settings ∧ y.journal = x.journal ++ announcedTypes := by
  have hl : max x.settings.maxCycles 1 = 0 + 1 := by omega
  obtain ⟨y, d, hfirst, hsd, hr⟩ :=
    hs.draining.drainCycles_covered hd hc rfl hk hq hcov (0 + 1) 0 0
  obtain ⟨ms, hms, htypes⟩ := hr.queue
  have hne : (d.unit u).queue ≠ [] := by
    rw [hsd.queue, hms, List.nil_append]
    rintro rfl
    obtain ⟨l, ls, hls⟩ := List.exists_cons_of_ne_nil hlines
    rw [hls] at htypes
    cases htypes
  have hsecond : h.drainCycles u t (0 + 1) 0 (0 + 1) d = _ :=
    Host.drainCycles_zero h u t (0 + 1) hne
  have hsv := (hsd.setQueue []).sameRecords
    (v := (d.setUnit u (d.unit u).clearQueue).record
      (.cascadeDiverged t (0 + 1) (d.unit u).queue.length)) ⟨rfl, rfl, rfl, rfl⟩ rfl rfl
  rw [← hl] at hfirst hsecond hsv
  obtain ⟨z, hz, hsz⟩ := hs.drain (r := .error (.cascadeLimit t _)) ha (hfirst.trans hsecond) hsv
  rw [hl] at hz
  exact ⟨_, z, hz, hsz, hr.settings, hr.journal⟩

theorem Sees.drain_uncovered (hs : Sees shelf t u x w) (hc : Announces c x.queue)
    (ha : x.status = .active) (hk : Kept x.rows) (hq : ∀ l ∈ c.lines, l.quantity ≠ 0)
    (hcov : ¬x.rows.stock.Covers c.lines) :
    ∃ text y v, h.drain u w = (.failed (.dispatch t (.rejected text)), v) ∧ Sees shelf t u y v ∧
      y.settings = x.settings ∧ y.journal = x.journal ++ announcedTypes := by
  obtain ⟨left, hl⟩ : ∃ left, max x.settings.maxCycles 1 = left + 1 :=
    ⟨max x.settings.maxCycles 1 - 1, by omega⟩
  have hne : ((Host.draining u w).unit u).queue ≠ [] := by
    obtain ⟨n, m, hnm, -⟩ := hc
    rw [hs.draining.queue, hnm]
    exact List.cons_ne_nil n [m]
  have hc' : Announces c ((Host.draining u w).unit u).queue := by
    rw [hs.draining.queue]
    exact hc
  obtain ⟨text, y, d, hv, hsd, hset, hj⟩ :=
    hc'.uncovered (hs.draining.handing 0) rfl hk hq hcov
  rw [← hd] at hv
  have hfirst : h.drainCycles u t (left + 1) (left + 1) 0 (Host.draining u w) = _ :=
    Host.drainCycles_failed h u t (left + 1) hne hv
  rw [← hl] at hfirst
  obtain ⟨z, hz, hsz⟩ := hs.drain (r := .error _) ha hfirst
    (hsd.sameRecords ⟨rfl, rfl, rfl, rfl⟩ rfl rfl)
  exact ⟨text, _, z, hz, hsz, hset, hj⟩

end Drain

end Transactor.Shop
