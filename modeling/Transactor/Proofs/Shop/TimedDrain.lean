import Mathlib.Algebra.GroupWithZero.Nat
import Transactor.Proofs.BreadthFirst
import Transactor.Proofs.Shop.TimeLimit

namespace Transactor.Shop

variable {Q H : Type} [Chronicle H (Party Q)]

/-- The world in which a batch has been handed over, and noted. -/
def handed (u : UnitRef) (t : TransactionId) (w : ShopWorld Q H) (cycles : Nat) : ShopWorld Q H :=
  (Host.handing u t w cycles).note (.dispatched u (w.unit u).queue)

section Call

variable (plan : List Message → UnitRef → Plan Q) (u : UnitRef) (t : TransactionId)
  (w : ShopWorld Q H) (cycles : Nat)

/-- How long the next call of a drain waits. -/
def waiting : Nat := (plan (w.unit u).queue u).duration u (handed u t w cycles)

/-- The world after that call, if it is not given up. -/
def called : ShopWorld Q H :=
  ((plan (w.unit u).queue u).effects u (handed u t w cycles)).timed
    (w.elapsed + waiting plan u t w cycles) w.deadlines

end Call

/-- The calls of a drain that go well, one after the other, if time is no matter: what each is given
and how long it waits. -/
inductive Calls (plan : List Message → UnitRef → Plan Q) (u : UnitRef) (t : TransactionId) :
    Nat → ShopWorld Q H → List (List Message × Nat) → ShopWorld Q H → Prop
  | nil (cycles : Nat) (w : ShopWorld Q H) : Calls plan u t cycles w [] w
  | cons {cycles : Nat} {w v : ShopWorld Q H} {cs : List (List Message × Nat)}
      (hq : (w.unit u).queue ≠ [])
      (hr : (plan (w.unit u).queue u).result u (handed u t w cycles) = .ok ())
      (h : Calls plan u t (cycles + 1) (called plan u t w cycles) cs v) :
      Calls plan u t cycles w (((w.unit u).queue, waiting plan u t w cycles) :: cs) v

/-- The host of a shop that delivers by plans within a limit, and notes what it dispatches. -/
def limited (timer : Timer) (limit : Nat) (plan : List Message → UnitRef → Plan Q)
    (before : Q → ShopTask Q H UnitOfWorkError Unit)
    (after : Q → Outcome → ShopTask Q H Empty Unit) (patience : Nat) :
    Host (Party Q) (Premises H) :=
  (Host.ofShop before after (Dispatcher.bounded timer limit (Plan.dispatcher timer plan))
    patience).noted

/-- A drain from the first call on: some calls go well, each within the limit. -/
structure Timely (limit : Nat) (plan : List Message → UnitRef → Plan Q) (u : UnitRef)
    (w : ShopWorld Q H) (cs : List (List Message × Nat)) (v : ShopWorld Q H) : Prop where
  active : (w.unit u).status = .active
  unlimited : w.deadlines = []
  calls : Calls plan u (w.unit u).transaction 0 (Host.draining u w) cs v
  inTime : ∀ c ∈ cs, c.2 ≤ limit

/-- The call after those that go well is made, and waits longer than the limit. -/
structure Overrun (limit : Nat) (plan : List Message → UnitRef → Plan Q) (u : UnitRef)
    (w : ShopWorld Q H) (cs : List (List Message × Nat)) (v : ShopWorld Q H) : Prop where
  timely : Timely limit plan u w cs v
  pending : (v.unit u).queue ≠ []
  allowed : cs.length < (w.unit u).limit
  late : limit < waiting plan u (w.unit u).transaction v cs.length

namespace Plan

theorem past_effects (p : Plan Q) (u : UnitRef) (w : ShopWorld Q H) :
    (p.effects u w).past = w.past := by
  induction p generalizing w with
  | ends result => rfl
  | waits duration rest ih => exact ih w
  | does x next ih =>
    have hhost := x.host_perform u w
    calc ((next (x.perform u w).1).effects u (x.perform u w).2).past
      _ = (x.perform u w).2.past := ih _ _
      _ = w.past := congrArg (Chronicle.past (S := H)) hhost

theorem past_effectsWithin (p : Plan Q) (u : UnitRef) (budget : Nat) (w : ShopWorld Q H) :
    (p.effectsWithin u budget w).past = w.past := by
  induction p generalizing w budget with
  | ends result => rfl
  | waits duration rest ih =>
    unfold effectsWithin
    split
    · exact ih _ w
    · rfl
  | does x next ih =>
    have hhost := x.host_perform u w
    calc ((next (x.perform u w).1).effectsWithin u budget (x.perform u w).2).past
      _ = (x.perform u w).2.past := ih _ _ _
      _ = w.past := congrArg (Chronicle.past (S := H)) hhost

end Plan

variable {plan : List Message → UnitRef → Plan Q} {u : UnitRef} {t : TransactionId}
  {w v : ShopWorld Q H} {cs : List (List Message × Nat)} {timer : Timer}
  {grain limit cycles : Nat}

theorem past_handed (u : UnitRef) (t : TransactionId) (w : ShopWorld Q H) (cycles : Nat) :
    (handed u t w cycles).past = w.past ++ [.dispatched u (w.unit u).queue] := by
  rw [handed, World.past_note]
  rfl

theorem past_called (plan : List Message → UnitRef → Plan Q) (u : UnitRef) (t : TransactionId)
    (w : ShopWorld Q H) (cycles : Nat) :
    (called plan u t w cycles).past = w.past ++ [.dispatched u (w.unit u).queue] :=
  ((plan (w.unit u).queue u).past_effects u _).trans (past_handed u t w cycles)

namespace Calls

theorem elapsed (h : Calls plan u t cycles w cs v) :
    v.elapsed = w.elapsed + (cs.map Prod.snd).sum := by
  induction h with
  | nil => rfl
  | cons _ _ _ ih =>
    rw [ih, List.map_cons, List.sum_cons, ← Nat.add_assoc]
    rfl

theorem dvd_elapsed (h : Calls plan u t cycles w cs v)
    (hplan : ∀ batch u, (plan batch u).Grained grain) (hw : grain ∣ w.elapsed) :
    grain ∣ v.elapsed := by
  induction h with
  | nil => exact hw
  | cons _ _ _ ih => exact ih (Nat.dvd_add hw (Plan.dvd_duration (hplan _ _) _ _))

theorem deadlines (h : Calls plan u t cycles w cs v) : v.deadlines = w.deadlines := by
  induction h with
  | nil => rfl
  | cons _ _ _ ih => exact ih

theorem past (h : Calls plan u t cycles w cs v) :
    v.past = w.past ++ (cs.map Prod.fst).map fun batch => .dispatched u batch := by
  induction h with
  | nil => simp
  | cons _ _ _ ih =>
    rw [ih, past_called, List.map_cons, List.map_cons, List.append_assoc]
    rfl

end Calls

section Drain

variable (before : Q → ShopTask Q H UnitOfWorkError Unit)
  (after : Q → Outcome → ShopTask Q H Empty Unit) (patience : Nat)

/-- The loop makes the calls that are in time, whatever they take together. -/
theorem Calls.drainCycles (h : Calls plan u t cycles w cs v)
    (hm : Measured timer grain limit plan) (hnow : grain ∣ w.elapsed) (hw : w.deadlines = [])
    (hc : ∀ c ∈ cs, c.2 ≤ limit) (bound left : Nat) :
    (limited timer limit plan before after patience).drainCycles u t bound (cs.length + left)
        cycles w =
      (limited timer limit plan before after patience).drainCycles u t bound left
        (cycles + cs.length) v := by
  induction h with
  | nil => rw [List.length_nil, Nat.zero_add, Nat.add_zero]
  | @cons cycles w v cs hq hr h ih =>
    have hroom : ∀ d ∈ w.deadlines, w.elapsed + waiting plan u t w cycles ≤ d := by
      rw [hw]
      exact fun d hd => absurd hd List.not_mem_nil
    have hcall : (limited timer limit plan before after patience).dispatch (w.unit u).queue u
        (Host.handing u t w cycles) =
        (.ofExcept ((plan (w.unit u).queue u).result u (handed u t w cycles)),
          called plan u t w cycles) :=
      hm.bounded_inTime hnow (hc _ List.mem_cons_self) hroom
    have hlater : grain ∣ (called plan u t w cycles).elapsed :=
      Nat.dvd_add hnow (Plan.dvd_duration (hm.waits _ _) _ _)
    rw [hr] at hcall
    rw [List.length_cons, Nat.add_right_comm, Host.drainCycles_ok _ u t bound hq hcall]
    rw [ih hlater hw fun c hmem => hc c (List.mem_cons_of_mem _ hmem), Nat.add_assoc,
      Nat.add_comm 1 cs.length]

theorem Timely.drain_punctual (h : Timely limit plan u w cs v)
    (hm : Measured timer grain limit plan) (hnow : grain ∣ w.elapsed)
    (hq : (v.unit u).queue = []) (hl : cs.length ≤ (w.unit u).limit) :
    ∃ z, (limited timer limit plan before after patience).drain u w = (.done (), z) ∧
      z.elapsed = w.elapsed + (cs.map Prod.snd).sum := by
  obtain ⟨left, hleft⟩ := Nat.exists_eq_add_of_le hl
  have hcycles := h.calls.drainCycles before after patience hm hnow
    h.unlimited h.inTime (w.unit u).limit left
  rw [← hleft, Host.drainCycles_empty _ u _ _ hq] at hcycles
  exact ⟨_, Host.drain_active _ u (r := .ok ()) h.active hcycles, h.calls.elapsed⟩

/-- The world in which a drain ends whose last call is given up. -/
def overrunEnd (limit : Nat) (plan : List Message → UnitRef → Plan Q) (u : UnitRef)
    (t : TransactionId) (v : ShopWorld Q H) (cycles : Nat) : ShopWorld Q H :=
  let x := handed u t v cycles
  let d := (((plan (v.unit u).queue u).effectsWithin u limit x).timed
    (x.elapsed + limit) x.deadlines).record
      (.dispatchFailed t (cycles + 1) (DeliveryError.timedOut (limit / 1000000)).message)
  d.setUnit u ((d.unit u).endDrain true)

theorem Overrun.drain (h : Overrun limit plan u w cs v) (hm : Measured timer grain limit plan)
    (hnow : grain ∣ w.elapsed) :
    (limited timer limit plan before after patience).drain u w =
      (.failed (.dispatch (w.unit u).transaction (.timedOut (limit / 1000000))),
        overrunEnd limit plan u (w.unit u).transaction v cs.length) := by
  obtain ⟨left, hleft⟩ := Nat.exists_eq_add_of_lt h.allowed
  have hdeadlines : v.deadlines = [] := h.timely.calls.deadlines.trans h.timely.unlimited
  have hroom : ∀ d ∈ v.deadlines, v.elapsed + limit ≤ d := by
    rw [hdeadlines]
    exact fun d hd => absurd hd List.not_mem_nil
  have hcall : (limited timer limit plan before after patience).dispatch (v.unit u).queue u
      (Host.handing u (w.unit u).transaction v cs.length) = _ :=
    hm.bounded_late (h.timely.calls.dvd_elapsed hm.waits hnow) h.late hroom
  have hcycles := h.timely.calls.drainCycles before after patience hm hnow h.timely.unlimited
    h.timely.inTime (w.unit u).limit (left + 1)
  rw [Nat.zero_add, Host.drainCycles_failed _ u _ _ h.pending hcall, ← Nat.add_assoc,
    ← hleft] at hcycles
  exact Host.drain_active _ u (r := .error _) h.timely.active hcycles

theorem Overrun.elapsed (h : Overrun limit plan u w cs v) :
    (overrunEnd limit plan u (w.unit u).transaction v cs.length).elapsed =
      w.elapsed + (cs.map Prod.snd).sum + limit := by
  have hv : v.elapsed = w.elapsed + (cs.map Prod.snd).sum := h.timely.calls.elapsed
  rw [← hv]
  rfl

theorem Overrun.past (h : Overrun limit plan u w cs v) :
    (overrunEnd limit plan u (w.unit u).transaction v cs.length).past =
      w.past ++ (cs.map Prod.fst ++ [(v.unit u).queue]).map fun batch => .dispatched u batch := by
  let x := handed u (w.unit u).transaction v cs.length
  calc (overrunEnd limit plan u (w.unit u).transaction v cs.length).past
    _ = x.past := (plan (v.unit u).queue u).past_effectsWithin u limit x
    _ = _ := by
      rw [past_handed, h.timely.calls.past, List.map_append, ← List.append_assoc]
      rfl

theorem limited_carried (timer : Timer) (limit : Nat) (plan : List Message → UnitRef → Plan Q)
    (hh : Holding t u w) :
    Carried t u w ((limited timer limit plan before after patience).drain u w).2 := by
  refine Host.drain_keeps _ u (fun m _ hm => hm.sameRecords ⟨rfl, rfl, rfl, rfl⟩)
    (fun _ _ _ hm => hm.setUnit rfl rfl) ?_ w (.refl hh)
  intro batch
  apply Task.Keeps.bind
  · exact Task.Keeps.modify fun m hm => hm.sameRecords ⟨rfl, rfl, rfl, rfl⟩
  intro _
  apply WorldTask.within_keeps
  · exact fun m _ hm => hm.sameRecords ⟨rfl, rfl, rfl, rfl⟩
  apply Plan.run_keeps
  · exact fun m x hm => hm.changes (x.step u m).changes
  · exact fun m _ hm => hm.sameRecords ⟨rfl, rfl, rfl, rfl⟩

end Drain

end Transactor.Shop
