import Transactor.Proofs.Protocol
import Transactor.Proofs.Shop.TimedDrain

namespace Transactor.Shop

open Relation

variable {Q H : Type} {t : TransactionId} {u : UnitRef} {w v : ShopWorld Q H}

/-- Parties of other code that have joined a transaction. -/
def parties (qs : List Q) : List (Synchronization (Party Q)) := qs.map fun q => .party (.other q)

/-- A unit of work has joined its transaction, after some parties of other code and before others,
and settles all that the transaction has staged. -/
structure Among (t : TransactionId) (u : UnitRef) (pre post : List Q) (w : ShopWorld Q H) : Prop
    where
  joined : (w.transaction t).synchronizations = parties pre ++ .unit u :: parties post
  bound : w.bound.get? t = some u
  holding : Holding t u w

/-- What is left of a transaction that has rolled back with all who had joined it. -/
structure Withdrawn (t : TransactionId) (u : UnitRef) (w v : ShopWorld Q H) : Prop where
  status : (v.transaction t).status = .completed .rolledBack
  owner : (v.unit u).transaction = t
  completed : (v.unit u).status = .completed
  queue : (v.unit u).queue = []
  participants : (v.unit u).participants = []
  committed : ∀ r : TableRef, (r.table v).committed = (r.table w).committed
  unstaged : ∀ r : TableRef, (r.table v).staged.get? t = none

section Withdrawal

variable {h : Host (Party Q) (Premises H)} {o : Outcome}

theorem tell_parties (hafter : ∀ q, (h.after (.other q) o).Within (UnitStep u)) (qs : List Q)
    (ss : List (Synchronization (Party Q))) (w : ShopWorld Q H) :
    ∃ v, ReflTransGen (UnitStep u) w v ∧
      h.tellSynchronizations o (parties qs ++ ss) w = h.tellSynchronizations o ss v := by
  induction qs generalizing w with
  | nil => exact ⟨w, .refl, rfl⟩
  | cons q qs ih =>
    obtain ⟨r, hr⟩ := (hafter q).exit w
    obtain ⟨v, hv, htell⟩ := ih (h.after (.other q) o w).2
    cases r with
    | error e => exact e.elim
    | ok _ => exact ⟨v, ((hafter q).steps w).trans hv, (Task.bind_done hr).trans htell⟩

/-- A rollback ends what the unit has: those told before it may still enlist with it, and those told
after it find it completed. -/
theorem complete_among {pre post : List Q}
    (hsettles : ∀ r x o, h.after (.stagedWrites r x) o = Task.atOnce (r.settle x o))
    (hafter : ∀ q, (h.after (.other q) .rolledBack).Within (UnitStep u))
    (hw : Among t u pre post w) :
    ∃ v, h.complete t .rolledBack w = (.done (), v) ∧ Withdrawn t u w v := by
  let c := w.ending t .rolledBack
  obtain ⟨m, hm, hpre⟩ := tell_parties hafter pre (.unit u :: parties post) c
  have hholding : Holding t u c := ⟨hw.holding.owner, hw.holding.enlisted, hw.holding.own⟩
  have hc : Carried t u c m := (Carried.refl hholding).changes (changes_of_steps hm)
  have hbound : m.bound.get? t = some u := by
    rw [hc.aside.bound]
    exact hw.bound
  obtain ⟨d, hd, hdismissed⟩ := tell_unit hsettles .rolledBack (fun q _ => hafter q)
    hc.holding.owner hbound hc.holding.own
  obtain ⟨v, hv, hpost⟩ := tell_parties hafter post [] d
  have hclosed : (d.unit u).status = .completed := by
    rw [hdismissed.unit]
    rfl
  have hs : SameRecords d v := sameRecords_of_changes (changes_of_steps hv) hclosed
  have htables : ∀ r : TableRef, r.table v = (r.table m).settle t .rolledBack := by
    intro r
    rw [hs.table, hdismissed.tables r (hc.holding.enlisted r)]
  refine ⟨v, ?_, ?_, ?_, ?_, ?_, ?_, ?_, ?_⟩
  · calc h.complete t .rolledBack w
      _ = h.tellSynchronizations .rolledBack (w.transaction t).synchronizations c := rfl
      _ = h.tellSynchronizations .rolledBack (.unit u :: parties post) m := by rw [hw.joined, hpre]
      _ = h.tellSynchronizations .rolledBack (parties post ++ []) d := by
        rw [List.append_nil]
        exact Task.bind_done hd
      _ = (.done (), v) := hpost
  · rw [hs.transaction, World.transaction, hdismissed.transactions, hc.aside.transactions]
    exact congrArg Transaction.status (World.transaction_setTransaction_self w t _)
  · rw [hs.unit, hdismissed.unit]
    exact hc.holding.owner
  · rw [hs.unit, hclosed]
  · rw [hs.unit, hdismissed.unit]
    rfl
  · rw [hs.unit, hdismissed.unit]
    rfl
  · intro r
    rw [htables]
    exact hc.rows.committed r
  · intro r
    rw [htables, Table.staged_settle]

end Withdrawal

variable [Chronicle H (Party Q)] {plan : List Message → UnitRef → Plan Q} {timer : Timer}
  {grain limit : Nat}
  {cs : List (List Message × Nat)}

/-- What is left of a transaction whose commit has given up the call after those of `bs`: nothing is
registered, enlisted or staged any more, no committed row has changed, and what has been dispatched
are those batches and the one that was given up, then and in all time to come. -/
structure Abandoned (t : TransactionId) (u : UnitRef) (w : ShopWorld Q H)
    (bs : List (List Message)) (z : ShopWorld Q H) : Prop extends Withdrawn t u w z where
  past : z.past = w.past ++ bs.map fun batch => .dispatched u batch
  closed : ∀ (g : Host (Party Q) (Premises H)) (m : ShopWorld Q H),
    ReflTransGen (fun a b => ∃ x, UnitStep x a b) z m → g.drain u m = (.failed (.closed t), m)

/-- What it comes to that deliveries have a limit of some nanoseconds, when times are counted in
grains. -/
structure TimeLimited (H : Type) [Chronicle H (Party Q)] (timer : Timer) (grain limit : Nat)
    (plan : List Message → UnitRef → Plan Q) : Prop where
  /-- A call that does not wait longer is that of the inner dispatcher. -/
  inTime : ∀ (batch : List Message) (u : UnitRef) (w : ShopWorld Q H), grain ∣ w.elapsed →
    (plan batch u).duration u w ≤ limit →
    (∀ d ∈ w.deadlines, w.elapsed + (plan batch u).duration u w ≤ d) →
    Dispatcher.bounded timer limit (Plan.dispatcher timer plan) batch u w =
        Plan.dispatcher timer plan batch u w ∧
      Plan.dispatcher timer plan batch u w = (.ofExcept ((plan batch u).result u w),
        ((plan batch u).effects u w).timed (w.elapsed + (plan batch u).duration u w) w.deadlines)
  /-- One that waits longer is given up, and has had the effects before it does. -/
  late : ∀ (batch : List Message) (u : UnitRef) (w : ShopWorld Q H), grain ∣ w.elapsed →
    limit < (plan batch u).duration u w → (∀ d ∈ w.deadlines, w.elapsed + limit ≤ d) →
    Dispatcher.bounded timer limit (Plan.dispatcher timer plan) batch u w =
      (.failed (.timedOut (limit / 1000000)),
        ((plan batch u).effectsWithin u limit w).timed (w.elapsed + limit) w.deadlines)
  /-- Two limits, one within the other, act as the smaller one alone. -/
  nested : ∀ (inner : Nat) (batch : List Message) (u : UnitRef) (w : ShopWorld Q H),
    grain ∣ inner → grain ∣ w.elapsed → (∀ d ∈ w.deadlines, w.elapsed ≤ d) →
    Dispatcher.bounded timer limit (Dispatcher.bounded timer inner (Plan.dispatcher timer plan))
        batch u w =
      Dispatcher.bounded timer (min inner limit) (Plan.dispatcher timer plan) batch u w
  /-- The calls of a drain may take longer together. -/
  punctual : ∀ before after patience (u : UnitRef) (w v : ShopWorld Q H) cs,
    grain ∣ w.elapsed → Timely limit plan u w cs v → (v.unit u).queue = [] →
    cs.length ≤ (w.unit u).limit →
    ∃ z, (limited timer limit plan before after patience).drain u w = (.done (), z) ∧
      z.elapsed = w.elapsed + (cs.map Prod.snd).sum
  overrun : ∀ before after patience (u : UnitRef) (w v : ShopWorld Q H) cs,
    grain ∣ w.elapsed → Overrun limit plan u w cs v →
    ∃ z, (limited timer limit plan before after patience).drain u w =
        (.failed (.dispatch (w.unit u).transaction (.timedOut (limit / 1000000))), z) ∧
      z.elapsed = w.elapsed + (cs.map Prod.snd).sum + limit
  /-- A commit during whose drain a call is given up rolls back, whoever else has joined and been
  asked before. -/
  commit : ∀ before after patience (t : TransactionId) (u : UnitRef) (pre post : List Q)
    (w x v : ShopWorld Q H) cs,
    (∀ q o, (after q o).Within fun a b => UnitStep u a b ∧ b.past = a.past) →
    pre.length < patience → (w.transaction t).status = .active →
    Transactor.Asked (limited timer limit plan before after patience) t w (parties pre) x →
    Among t u pre post x → grain ∣ x.elapsed → Overrun limit plan u x cs v →
    ∃ z, (limited timer limit plan before after patience).commit t w =
        (.failed (.rolledBackBy t (.dispatch t (.timedOut (limit / 1000000)))), z) ∧
      Abandoned t u x (cs.map Prod.fst ++ [(v.unit u).queue]) z

theorem past_complete {h : Host (Party Q) (Premises H)} {o : Outcome} (d : ShopWorld Q H)
    (hsettles : ∀ r x, h.after (.stagedWrites r x) o = Task.atOnce (r.settle x o))
    (hother : ∀ q es, (h.after (.other q) o).Keeps fun m => m.past = es) :
    (h.complete t o d).2.past = d.past := by
  have hi : Host.Indifferent fun m : ShopWorld Q H => m.past = d.past :=
    ⟨fun _ _ hm => hm, fun _ _ _ hm => hm, fun _ _ hm => hm⟩
  refine Host.complete_state h t hi ?_ rfl
  intro p
  cases p with
  | stagedWrites r x =>
    rw [hsettles]
    exact Task.Keeps.atOnce (settle_keeps (fun _ _ hm => hm) (fun _ _ _ hm => hm) r x o)
  | other q => exact hother q _

section Commit

variable (before : Q → ShopTask Q H UnitOfWorkError Unit)
  (after : Q → Outcome → ShopTask Q H Empty Unit) (patience : Nat)

/-- A commit whose drain is given up rolls back at once: nobody else is asked. -/
theorem Overrun.commit {pre post : List Q} {x : ShopWorld Q H}
    (hafter : ∀ q o, (after q o).Within fun a b => UnitStep u a b ∧ b.past = a.past)
    (hpatience : pre.length < patience) (ha : (w.transaction t).status = .active)
    (hasked : Transactor.Asked (limited timer limit plan before after patience) t w (parties pre) x)
    (hx : Among t u pre post x) (hm : Measured timer grain limit plan) (hnow : grain ∣ x.elapsed)
    (h : Overrun limit plan u x cs v) :
    ∃ z, (limited timer limit plan before after patience).commit t w =
        (.failed (.rolledBackBy t (.dispatch t (.timedOut (limit / 1000000)))), z) ∧
      Abandoned t u x (cs.map Prod.fst ++ [(v.unit u).queue]) z := by
  obtain rfl := hx.holding.owner
  let host := limited timer limit plan before after patience
  let d := (overrunEnd limit plan u (x.unit u).transaction v cs.length).record
    (.beforeCompletionFailed (x.unit u).transaction (UnitOfWorkError.dispatch
      (x.unit u).transaction (.timedOut (limit / 1000000))).message)
  have hdrain := h.drain before after patience hm hnow
  have hcarried := limited_carried before after patience timer limit plan hx.holding
  rw [hdrain] at hcarried
  have hd : Carried (x.unit u).transaction u x d := hcarried.sameRecords ⟨rfl, rfl, rfl, rfl⟩
  have hturn : (x.transaction (x.unit u).transaction).synchronizations[(parties pre).length]? =
      some (.unit u) := by
    rw [hx.joined, List.getElem?_append_right (Nat.le_refl _), Nat.sub_self]
    rfl
  have hask : host.askAll (x.unit u).transaction patience 0 w = _ :=
    hasked.refused hturn (Task.bind_failed hdrain) (by rwa [parties, List.length_map])
  have hsettles : ∀ r y o, host.after (.stagedWrites r y) o = Task.atOnce (r.settle y o) :=
    fun _ _ _ => rfl
  have hsteps : ∀ q, (host.after (.other q) .rolledBack).Within (UnitStep u) :=
    fun q => (hafter q .rolledBack).refine fun _ _ hs => .single hs.1
  have hamong : Among (x.unit u).transaction u pre post d := by
    refine ⟨?_, ?_, hd.holding⟩
    · rw [World.transaction, hd.aside.transactions]
      exact hx.joined
    · rw [hd.aside.bound]
      exact hx.bound
  obtain ⟨z, hz, hleft⟩ := complete_among hsettles hsteps hamong
  have hpast : z.past = d.past := by
    have hp := past_complete (t := (x.unit u).transaction) d (fun r y => hsettles r y .rolledBack)
      fun q es => (hafter q .rolledBack).keeps fun _ _ hs hm => hs.2.trans hm
    rwa [hz] at hp
  refine ⟨z, Host.commit_refused host _ ha hask hz, { hleft with
    committed := fun r => (hleft.committed r).trans (hd.rows.committed r)
    past := hpast.trans h.past
    closed := ?_ }⟩
  intro g m hm
  have hu : m.unit u = z.unit u := unit_of_steps hleft.completed hm
  have hclosed : (m.unit u).status ≠ .active := by
    rw [hu, hleft.completed]
    exact fun he => by cases he
  rw [g.drain_closed u hclosed, hu, hleft.owner]

end Commit

/-- A call is given up where its waits exceed the limit, and each call of a drain has the whole
limit for itself. A commit during which a call is given up rolls back: nothing that the call has
registered is ever dispatched, and nothing that it has staged is committed. -/
theorem deliveries_timeLimited {timer : Timer} {grain limit : Nat}
    {plan : List Message → UnitRef → Plan Q} (h : Measured timer grain limit plan) :
    TimeLimited H timer grain limit plan where
  inTime batch u w hnow hle hw := by
    have hrun : Plan.dispatcher timer plan batch u w = _ :=
      Plan.run_inTime h.exact u (h.waits batch u) hnow hw
    exact ⟨(h.bounded_inTime hnow hle hw).trans hrun.symm, hrun⟩
  late _ _ _ hnow hlt hw := h.bounded_late hnow hlt hw
  nested _ _ _ _ hinner hnow hw := h.bounded_bounded hnow hinner hw
  punctual before after patience _ _ _ _ hnow hc hq hl :=
    hc.drain_punctual before after patience h hnow hq hl
  overrun before after patience _ _ _ _ hnow ho :=
    ⟨_, ho.drain before after patience h hnow, ho.elapsed⟩
  commit before after patience _ _ _ _ _ _ _ _ hafter hpatience ha hasked hx hnow ho :=
    ho.commit before after patience hafter hpatience ha hasked hx h hnow

/-- A message, and a plan that registers it some times before another. -/
def reminder : Message := .announce ⟨.ofNat 1, .epoch⟩ (.ofNat 2) "order" .postUpdated

def reminding {Q : Type} : Nat → Plan Q → Plan Q
  | 0, rest => rest
  | n + 1, rest => .does (.register (.message reminder)) fun _ => reminding n rest

theorem grained_reminding {Q : Type} {grain : Nat} {rest : Plan Q} (h : rest.Grained grain)
    (n : Nat) : (reminding n rest).Grained grain := by
  induction n with
  | zero => exact h
  | succ n ih => exact fun _ => ih

def millis (n : Nat) : Nat := n * 1000000

/-- Waits for two milliseconds with one message, and for four with two, having staged a row. -/
def slowing (batch : List Message) (_ : UnitRef) : Plan Unit :=
  match batch.length with
  | 1 => reminding 1 (.waits (millis 2) (reminding 1 (.ends (.ok ()))))
  | 2 => .does (.write .insert ⟨.stockItem, 0⟩ (StockItem.ofUnits (.ofNat 1) "WIDGET-1" 10))
      fun _ => .waits (millis 1) (reminding 2 (.waits (millis 3) (.ends (.ok ()))))
  | _ => .ends (.ok ())

theorem measured_slowing (n : Nat) : Measured .milliseconds 1000000 (millis n) slowing where
  exact := Timer.exact_milliseconds
  limit := Nat.dvd_mul_left _ _
  waits batch u := by
    have hdvd (n : Nat) : 1000000 ∣ millis n := Nat.dvd_mul_left _ _
    have hends : (Plan.ends (.ok ()) : Plan Unit).Grained 1000000 := trivial
    have hwaits {rest : Plan Unit} (n : Nat) (h : rest.Grained 1000000) :
        (Plan.waits (millis n) rest).Grained 1000000 := ⟨hdvd n, h⟩
    unfold slowing
    split
    · exact grained_reminding (hwaits 2 (grained_reminding hends 1)) 1
    · exact fun _ => hwaits 1 (grained_reminding (hwaits 3 hends) 2)
    · exact hends

/-- A world with an open transaction: between two parties a unit has joined it that has accepted a
message. -/
def engaged : ShopWorld Unit (List (Call (Party Unit))) :=
  let t : TransactionId := ⟨.ofNat 0⟩
  let w : ShopWorld Unit (List (Call (Party Unit))) := .first ⟨5⟩ ⟨.empty, [], []⟩
  let x : UnitOfWork (Party Unit) := .begin t ⟨5⟩
  let joined := parties [()] ++ .unit ⟨0⟩ :: parties [()]
  { (w.setUnit ⟨0⟩ (x.add (.message reminder))).setTransaction t ⟨.active, joined⟩ with
    bound := w.bound.insert t ⟨0⟩ }

theorem engaged_among : Among ⟨.ofNat 0⟩ ⟨0⟩ [()] [()] engaged where
  joined := rfl
  bound := rfl
  holding := by
    refine ⟨rfl, ?_, fun _ _ hm => by cases hm⟩
    rintro ⟨kind, n⟩ hr
    cases kind <;> cases hr

/-- Its host, with parties that agree and do nothing. -/
def slowed (limit : Nat) : Host (Party Unit) (Premises (List (Call (Party Unit)))) :=
  limited .milliseconds limit slowing (fun _ => pure ()) (fun _ _ => pure ()) 2

/-- The world after some calls of its drain, if none is given up. -/
def slowedAfter : Nat → ShopWorld Unit (List (Call (Party Unit)))
  | 0 => Host.draining ⟨0⟩ engaged
  | n + 1 => called slowing ⟨0⟩ ⟨.ofNat 0⟩ (slowedAfter n) n

theorem engaged_asked (limit : Nat) :
    Transactor.Asked (slowed limit) ⟨.ofNat 0⟩ engaged (parties [()]) engaged :=
  .next .start rfl rfl

/-- What its drain hands over, and how long each call waits. -/
def slowedCalls : List (List Message × Nat) :=
  [([reminder], millis 2), ([reminder, reminder], millis 4),
    (((slowedAfter 2).unit ⟨0⟩).queue, 0)]

theorem slowing_timely : Timely (millis 4) slowing ⟨0⟩ engaged slowedCalls (slowedAfter 3) := by
  have hthird : Calls slowing ⟨0⟩ ⟨.ofNat 0⟩ 2 (slowedAfter 2)
      [(((slowedAfter 2).unit ⟨0⟩).queue, 0)] (slowedAfter 3) :=
    .cons (List.cons_ne_nil _ _) rfl (.nil 3 _)
  have hsecond : Calls slowing ⟨0⟩ ⟨.ofNat 0⟩ 1 (slowedAfter 1)
      [([reminder, reminder], millis 4), (((slowedAfter 2).unit ⟨0⟩).queue, 0)] (slowedAfter 3) :=
    .cons (List.cons_ne_nil _ _) rfl hthird
  exact ⟨rfl, rfl, .cons (List.cons_ne_nil _ _) rfl hsecond, by decide⟩

theorem slowing_overrun :
    Overrun (millis 3) slowing ⟨0⟩ engaged [([reminder], millis 2)] (slowedAfter 1) where
  timely := ⟨rfl, rfl, .cons (List.cons_ne_nil _ _) rfl (.nil 1 _), by decide⟩
  pending := List.cons_ne_nil _ _
  allowed := by decide
  late := by decide

theorem deliveries_timeLimited_slowing :
    let H := List (Call (Party Unit))
    let plan := Plan.dispatcher (H := H) .milliseconds slowing
    (Measured .milliseconds 1000000 (millis 3) slowing ∧
      Measured .milliseconds 1000000 (millis 4) slowing ∧ Measured ⟨id⟩ 1 1500000 slowing) ∧
      engaged.deadlines = [] ∧ engaged.elapsed = 0 ∧
      ((slowing [reminder] ⟨0⟩).duration ⟨0⟩ engaged ≤ millis 3 ∧
        Dispatcher.bounded .milliseconds (millis 3) plan [reminder] ⟨0⟩ engaged =
          plan [reminder] ⟨0⟩ engaged) ∧
      (millis 3 < (slowing [reminder, reminder] ⟨0⟩).duration ⟨0⟩ engaged ∧
        (Dispatcher.bounded .milliseconds (millis 3) plan [reminder, reminder] ⟨0⟩ engaged).1 =
          .failed (.timedOut 3)) ∧
      (1500000 < (slowing [reminder] ⟨0⟩).duration ⟨0⟩ engaged ∧
        (Dispatcher.bounded ⟨id⟩ 1500000 (Plan.dispatcher ⟨id⟩ slowing) [reminder] ⟨0⟩
          engaged).1 = .failed (.timedOut 1)) ∧
      Dispatcher.bounded .milliseconds (millis 3)
          (Dispatcher.bounded .milliseconds (millis 2) plan) [reminder, reminder] ⟨0⟩ engaged =
        Dispatcher.bounded .milliseconds (millis 2) plan [reminder, reminder] ⟨0⟩ engaged ∧
      (Timely (millis 4) slowing ⟨0⟩ engaged slowedCalls (slowedAfter 3) ∧
        ((slowedAfter 3).unit ⟨0⟩).queue = [] ∧
        ∃ z, (slowed (millis 4)).drain ⟨0⟩ engaged = (.done (), z) ∧ z.elapsed = millis 6) ∧
      (engaged.transaction ⟨.ofNat 0⟩).status = .active ∧
      Transactor.Asked (slowed (millis 3)) ⟨.ofNat 0⟩ engaged (parties [()]) engaged ∧
      Among ⟨.ofNat 0⟩ ⟨0⟩ [()] [()] engaged ∧
      Overrun (millis 3) slowing ⟨0⟩ engaged [([reminder], millis 2)] (slowedAfter 1) ∧
      ∃ z, (slowed (millis 3)).commit ⟨.ofNat 0⟩ engaged =
          (.failed (.rolledBackBy ⟨.ofNat 0⟩ (.dispatch ⟨.ofNat 0⟩ (.timedOut 3))), z) ∧
        Abandoned ⟨.ofNat 0⟩ ⟨0⟩ engaged [[reminder], [reminder, reminder]] z := by
  intro H plan
  have hfine : Measured ⟨id⟩ 1 1500000 slowing :=
    ⟨fun _ _ => rfl, Nat.one_dvd _, fun _ _ => Plan.grained_one _⟩
  have h3 : TimeLimited H .milliseconds 1000000 (millis 3) slowing :=
    deliveries_timeLimited (measured_slowing 3)
  have h4 : TimeLimited H .milliseconds 1000000 (millis 4) slowing :=
    deliveries_timeLimited (measured_slowing 4)
  have h1 : TimeLimited H ⟨id⟩ 1 1500000 slowing := deliveries_timeLimited hfine
  have hnow : 1000000 ∣ engaged.elapsed := Nat.dvd_zero _
  have hfree {n : Nat} : ∀ d ∈ engaged.deadlines, n ≤ d := fun d hd => absurd hd List.not_mem_nil
  have hshort : (slowing [reminder] ⟨0⟩).duration ⟨0⟩ engaged ≤ millis 3 := by decide
  have hlong : millis 3 < (slowing [reminder, reminder] ⟨0⟩).duration ⟨0⟩ engaged := by decide
  have hshorter : 1500000 < (slowing [reminder] ⟨0⟩).duration ⟨0⟩ engaged := by decide
  have hlate := congrArg Prod.fst (h3.late [reminder, reminder] ⟨0⟩ engaged hnow hlong hfree)
  have hlater :=
    congrArg Prod.fst (h1.late [reminder] ⟨0⟩ engaged (Nat.one_dvd _) hshorter hfree)
  have hend : ((slowedAfter 3).unit ⟨0⟩).queue = [] := rfl
  have hsum : engaged.elapsed + (slowedCalls.map Prod.snd).sum = millis 6 := by
    have hstart : engaged.elapsed = 0 := rfl
    simp [hstart, slowedCalls, millis]
  obtain ⟨y, hy, helapsed⟩ :=
    h4.punctual (fun _ => pure ()) (fun _ _ => pure ()) 2 _ _ _ _ hnow slowing_timely hend
      (by decide)
  rw [hsum] at helapsed
  have hafter : ∀ (_ : Unit) (_ : Outcome), (pure () : ShopTask Unit H Empty Unit).Within
      fun a b => UnitStep ⟨0⟩ a b ∧ b.past = a.past := fun _ _ => .pure ()
  exact ⟨⟨measured_slowing 3, measured_slowing 4, hfine⟩, rfl, rfl,
    ⟨hshort, (h3.inTime _ _ _ hnow hshort hfree).1⟩, ⟨hlong, hlate⟩, ⟨hshorter, hlater⟩,
    h3.nested (millis 2) _ _ _ (Nat.dvd_mul_left _ _) hnow hfree,
    ⟨slowing_timely, hend, y, hy, helapsed⟩,
    rfl, engaged_asked _, engaged_among, slowing_overrun,
    h3.commit _ _ 2 _ _ _ _ _ _ _ _ hafter (by decide) rfl (engaged_asked _) engaged_among hnow
      slowing_overrun⟩

end Transactor.Shop
