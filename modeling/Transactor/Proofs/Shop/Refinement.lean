import Transactor.Proofs.Shop.Atomicity
import Transactor.Proofs.Shop.Work

namespace Transactor.Shop

variable {Q H : Type}

/-- The host of the shop. Messages are delivered in process to its handlers, and nothing but tables
takes part in a transaction. -/
def ordering (shelf patience : Nat) : Host (Party Empty) (Premises H) :=
  Host.ofShop nofun nofun (Dispatcher.inProcess (handlers shelf)) patience

/-- The committed rows of the tables of a number. -/
def shelved (shelf : Nat) (w : ShopWorld Q H) : Rows := fun k id =>
  (((TableRef.mk k shelf).table w).committed.get? id).map Tracked.body

/-- The books that the committed rows and the journal come to. -/
def books (shelf : Nat) (w : ShopWorld Q H) : Books where
  orders := shelved shelf w .order
  stock := (shelved shelf w).stock
  journal := w.host.journal

theorem books_stock (shelf : Nat) (w : ShopWorld Q H) (id : Uuid) :
    (books shelf w).stock id = (shelved shelf w .stockItem id).map StockItem.product := rfl

theorem books_orders (shelf : Nat) (w : ShopWorld Q H) :
    (books shelf w).orders = shelved shelf w .order := rfl

/-- No transaction is under way, and every committed row is in order. -/
structure Idle (shelf : Nat) (settings : Settings) (w : ShopWorld Q H) : Prop where
  settings : w.settings = settings
  unbound : ∀ t, w.bound.get? t = none
  unstaged : ∀ (r : TableRef) (t : TransactionId), (r.table w).staged.get? t = none
  detached : ∀ k id row, ((TableRef.mk k shelf).table w).committed.get? id = some row →
    row.IsDetached
  kept : Kept (shelved shelf w)

section Closing

variable {shelf patience : Nat} {settings : Settings} {t : TransactionId} {u : UnitRef}

theorem ordering_steady (shelf patience : Nat) (u : UnitRef) :
    Steady (ordering shelf patience : Host (Party Empty) (Premises H)) u :=
  steady_ofShop (fun q => q.elim) (fun q => q.elim) (handlers_within shelf u) patience

/-- What the end of a transaction leaves as it is. -/
structure Standing (settings : Settings) (journal : List String) (w : ShopWorld Q H) : Prop where
  settings : w.settings = settings
  journal : w.host.journal = journal

theorem settle_standing (r : TableRef) (t : TransactionId) (o : Outcome) (journal : List String) :
    (r.settle t o : ShopAct Q H Empty Unit).Keeps (Standing settings journal) :=
  settle_keeps (fun _ _ hv => ⟨hv.settings, hv.journal⟩) (fun _ _ _ hv => ⟨hv.settings, hv.journal⟩)
    r t o

theorem Standing.complete {w v : ShopWorld Empty H} {o : Outcome} {journal : List String}
    (hw : Standing settings journal w)
    (hc : (ordering shelf patience).complete t o w = (.done (), v)) :
    Standing settings journal v := by
  have hi : Host.Indifferent (Standing settings journal : ShopWorld Empty H → Prop) :=
    ⟨fun _ _ h => ⟨h.settings, h.journal⟩, fun _ _ _ h => ⟨h.settings, h.journal⟩,
      fun _ _ h => ⟨h.settings, h.journal⟩⟩
  have hafter : ∀ p, ((ordering shelf patience : Host (Party Empty) (Premises H)).after p o).Keeps
      (Standing settings journal) := by
    intro p
    cases p with
    | stagedWrites r x => exact Task.Keeps.atOnce (settle_standing r x o journal)
    | other q => exact q.elim
  have hv := Host.complete_state _ t hi hafter ⟨hw.settings, hw.journal⟩
  rw [hc] at hv
  exact hv

variable {base v : ShopWorld Empty H} {o : Outcome}

theorem Idle.ended (h : Idle shelf settings base) (he : Ended base t u o v)
    (hsettings : v.settings = settings)
    (hdetached : ∀ k id row, ((TableRef.mk k shelf).table v).committed.get? id = some row →
      row.IsDetached) (hkept : Kept (shelved shelf v)) : Idle shelf settings v where
  settings := hsettings
  unbound x := by
    rw [he.released]
    exact h.unbound x
  unstaged r x := by
    by_cases hx : x = t
    · rw [hx]
      exact he.unstaged r
    · rw [he.others r x hx]
      exact h.unstaged r x
  detached := hdetached
  kept := hkept

theorem Idle.unclaimed (h : Idle shelf settings base) : Unclaimed base where
  bound := h.unbound _
  staged r := h.unstaged r _

theorem Idle.opened (h : Idle shelf settings base) :
    Sees shelf base.nextTransaction base.freshUnit
      ⟨settings, .active, [], shelved shelf base, base.host.journal⟩ (Shop.opened base) := by
  have hu := opened_unit h.unclaimed
  obtain ⟨hhost, hsettings⟩ := opened_host h.unclaimed
  have htable : ∀ r : TableRef, r.table (Shop.opened base) = r.table base := by
    intro r
    rw [TableRef.table, hhost]
    rfl
  refine ⟨?_, hsettings.trans h.settings, ?_, ?_, ?_, ?_, ?_, [], List.nodup_nil, ?_, ?_⟩
  · rw [hu]
    rfl
  · rw [hu, h.settings]
    rfl
  · rw [hu]
    rfl
  · rw [hu]
    rfl
  · intro k id
    rw [htable, Table.visible, h.unstaged]
    exact (Tracked.map_fresh_body (h.detached k id)).symm
  · rw [hhost]
  · rw [hu]
    rfl
  · intro k
    rw [htable, KeyedList.contains_eq_isSome, h.unstaged]
    simp

/-- A transaction that has rolled back has left nothing but what the journal notes of it. -/
theorem Idle.rolledBack {d : ShopWorld Empty H} {journal : List String}
    (h : Idle shelf settings base) (hs : Session base t u d) (he : Ended base t u .rolledBack v)
    (htables : ∀ r : TableRef, r.table v = (r.table d).settle t .rolledBack)
    (hv : Standing settings journal v) :
    Idle shelf settings v ∧ books shelf v = { books shelf base with journal } := by
  have hcommitted : ∀ k, ((TableRef.mk k shelf).table v).committed =
      ((TableRef.mk k shelf).table base).committed := by
    intro k
    rw [htables]
    exact hs.committed _
  have hrows : shelved shelf v = shelved shelf base := by
    funext k id
    rw [shelved, shelved, hcommitted]
  refine ⟨h.ended he hv.settings ?_ (hrows ▸ h.kept), ?_⟩
  · intro k id row hrow
    rw [hcommitted] at hrow
    exact h.detached k id row hrow
  rw [books, hrows, hv.journal]
  rfl

theorem Idle.committed {d : ShopWorld Empty H} {z : View} (h : Idle shelf settings base)
    (hz : Sees shelf t u z d) (hk : Kept z.rows) (he : Ended base t u .committed v)
    (htables : ∀ r : TableRef, r.table v = (r.table d).settle t .committed)
    (hv : Standing settings z.journal v) :
    Idle shelf settings v ∧ books shelf v = ⟨z.rows .order, z.rows.stock, z.journal⟩ := by
  have hcommitted : ∀ k id, ((TableRef.mk k shelf).table v).committed.get? id =
      (z.rows k id).map .fresh := by
    intro k id
    rw [htables, Table.get?_settle_committed, hz.rows]
  have hrows : shelved shelf v = z.rows := by
    funext k id
    rw [shelved, hcommitted, Tracked.map_body_fresh]
  refine ⟨h.ended he hv.settings ?_ (hrows ▸ hk), ?_⟩
  · intro k id row hrow
    rw [hcommitted] at hrow
    obtain ⟨e, -, rfl⟩ := Option.map_eq_some_iff.mp hrow
    exact Tracked.isDetached_fresh e
  rw [books, hrows, hv.journal]

variable {c : Command} {k d : ShopWorld Empty H} {x z : View} {id : Uuid}

/-- The run of a command. -/
def Command.run (shelf patience : Nat) (c : Command) : ShopTask Empty H OrderingError Uuid :=
  inTransaction (ordering shelf patience) (c.work shelf)

theorem work_session (h : Idle shelf settings base) {r : Except OrderingError Uuid}
    (hk : c.work shelf base.freshUnit (Shop.opened base) = (r, k)) :
    Session base base.nextTransaction base.freshUnit k := by
  have hsteps := changes_of_steps
    (work_stepped shelf base.freshUnit (Shop.opened base) c (Shop.opened base) .refl)
  rw [hk] at hsteps
  exact (opened_session h.unclaimed).changes hsteps

theorem Idle.failed (h : Idle shelf settings base) (patience : Nat) {e : OrderingError}
    (hk : c.work shelf base.freshUnit (Shop.opened base) = (.error e, k))
    (hx : Sees shelf base.nextTransaction base.freshUnit x k) (hset : x.settings = settings) :
    ∃ v, c.run shelf patience base = (.failed e, v) ∧ Idle shelf settings v ∧
      books shelf v = { books shelf base with journal := x.journal } := by
  have hs := work_session h hk
  obtain ⟨v, hv, hc, he, htables⟩ := inTransaction_failed
    (ordering_steady shelf patience base.freshUnit) h.unclaimed hk hs
  have hstanding : Standing settings x.journal (k.record
      (.rollingBack base.nextTransaction (OrderingError.message e))) :=
    ⟨hx.settings.trans hset, hx.journal⟩
  exact ⟨v, hv, h.rolledBack hs he htables (hstanding.complete hc)⟩

theorem Idle.refused (h : Idle shelf settings base) {e : UnitOfWorkError} (hp : 3 ≤ patience)
    (hk : c.work shelf base.freshUnit (Shop.opened base) = (.ok id, k))
    (hd : (ordering shelf patience).drain base.freshUnit k = (.failed e, d))
    (hz : Sees shelf base.nextTransaction base.freshUnit z d) (hset : z.settings = settings) :
    ∃ v, c.run shelf patience base =
        (.failed (.transaction (.rolledBackBy base.nextTransaction e)), v) ∧
      Idle shelf settings v ∧ books shelf v = { books shelf base with journal := z.journal } := by
  have hh := ordering_steady (H := H) shelf patience base.freshUnit
  have hs := work_session h hk
  have hsd := drain_session hh k hs
  rw [hd] at hsd
  obtain ⟨n, rfl⟩ : ∃ n, patience = n + 1 := ⟨patience - 1, by omega⟩
  have hask : (ordering shelf (n + 1)).askAll base.nextTransaction (n + 1) 0 k = (.failed e, d) :=
    Host.askAll_refused _ _ _ (by rw [hs.joined]) hd
  obtain ⟨v, hv, hc, he, htables⟩ := inTransaction_refused hh h.unclaimed hk hs hask hsd
  have hstanding : Standing settings z.journal (d.record
      (.beforeCompletionFailed base.nextTransaction e.message)) :=
    ⟨hz.settings.trans hset, hz.journal⟩
  exact ⟨v, hv, h.rolledBack hsd he htables (hstanding.complete hc)⟩

theorem Idle.agreed (h : Idle shelf settings base) (hp : 3 ≤ patience)
    (hk : c.work shelf base.freshUnit (Shop.opened base) = (.ok id, k))
    (hd : (ordering shelf patience).drain base.freshUnit k = (.done (), d))
    (hz : Sees shelf base.nextTransaction base.freshUnit z d) (hset : z.settings = settings)
    (hkept : Kept z.rows) :
    ∃ v, c.run shelf patience base = (.done id, v) ∧ Idle shelf settings v ∧
      books shelf v = ⟨z.rows .order, z.rows.stock, z.journal⟩ := by
  have hh := ordering_steady (H := H) shelf patience base.freshUnit
  have hs := work_session h hk
  have hsd := drain_session hh k hs
  rw [hd] at hsd
  obtain ⟨n, rfl⟩ : ∃ n, patience = n + 2 := ⟨patience - 2, by omega⟩
  have hparts : (ordering shelf (n + 2)).askParticipants base.freshUnit (n + 2) 0 d =
      (.done (), d) := by
    have hlength := hz.participants_length
    obtain ⟨ks, -, hks, -⟩ := hz.enlisted
    apply Host.askParticipants_agreed
    · intro p hmem
      rw [hks] at hmem
      obtain ⟨j, -, rfl⟩ := List.mem_map.mp hmem
      rfl
    · omega
    · exact Nat.zero_le _
  have hask : (ordering shelf (n + 2)).askAll base.nextTransaction (n + 2) 0 k = (.done (), d) :=
    Host.askAll_agreed _ _ _ (by rw [hs.joined]) hd hparts (by rw [hsd.joined])
  obtain ⟨v, hv, hc, he, htables⟩ := inTransaction_agreed hh h.unclaimed hk hs hask hsd
  have hstanding : Standing settings z.journal d := ⟨hz.settings.trans hset, hz.journal⟩
  exact ⟨v, hv, h.committed hz hkept he htables (hstanding.complete hc)⟩

end Closing

/-- A result of the shop is that of the books: the same identifier, or a failure that reports the
refusal. -/
inductive Agrees : Exit OrderingError Uuid → Except Refusal Uuid → Prop
  | done (id : Uuid) : Agrees (.done id) (.ok id)
  | invalid (text : String) : Agrees (.failed (.domain (.validation text))) (.error .invalid)
  | unknown (id : Uuid) : Agrees (.failed (.domain (.notFound id))) (.error (.unknown id))
  | taken (kind : Kind) (id : Uuid) :
      Agrees (.failed (.alreadyExists kind.typeName id)) (.error (.taken kind id))
  | empty (id : Uuid) (text : String) :
      Agrees (.failed (.unitOfWork (.preHookRejected id .prePersist (.validation text))))
        (.error (.empty id))
  | uncovered (t : TransactionId) (text : String) :
      Agrees (.failed (.transaction (.rolledBackBy t (.dispatch t (.rejected text)))))
        (.error .uncovered)
  | cascade (t : TransactionId) :
      Agrees (.failed (.transaction (.rolledBackBy t (.cascadeLimit t 1)))) (.error .cascade)

/-- The shop has come to where the books have. -/
structure Matched (shelf batches : Nat) (r : Exit OrderingError Uuid × ShopWorld Empty H)
    (b : Except Refusal Uuid × Books) : Prop where
  result : Agrees r.1 b.1
  idle : Idle shelf ⟨batches⟩ r.2
  books : books shelf r.2 = b.2

section Commands

variable {shelf patience batches : Nat} {w : ShopWorld Empty H}

theorem stock_matched (hp : 3 ≤ patience) (h : Idle shelf ⟨batches⟩ w) (id : Uuid) (sku : String)
    (onHand : UInt32) :
    Matched shelf batches ((Command.stock id sku onHand).run shelf patience w)
      (Books.addStock id sku onHand (books shelf w)) := by
  cases hrow : shelved shelf w .stockItem id with
  | some item =>
    have hsome : (shelved shelf w .stockItem id).isSome = true := by
      rw [hrow]
      rfl
    have hbook : ((books shelf w).stock id).isSome = true := by
      rw [books_stock, hrow]
      rfl
    obtain ⟨v, hv, hi, hb⟩ := h.failed patience (c := .stock id sku onHand)
      (h.opened.stock_taken sku onHand hsome) h.opened rfl
    rw [hv, Books.addStock, if_pos hbook]
    exact ⟨.taken .stockItem id, hi, hb⟩
  | none =>
    have hbook : ¬((books shelf w).stock id).isSome = true := by
      rw [books_stock, hrow]
      simp
    obtain ⟨m, k, hk, hm, hs⟩ := h.opened.stock_free sku onHand rfl hrow
    have htypes : [m].map Message.type = ["aggregate.post_persisted"] := by
      rw [List.map_singleton, hm]
    have hothers := ne_orderPlacedType htypes (by decide)
    obtain ⟨d, hd, hz⟩ := hs.drain_others (h := ordering shelf patience) rfl rfl hothers
    have hkept := h.kept.put (k := .stockItem) ⟨id, sku, onHand, 0⟩ rfl
      (StockItem.beforeSave_unreserved id sku onHand)
    obtain ⟨v, hv, hi, hb⟩ := h.agreed hp hk hd hz rfl hkept
    rw [hv, Books.addStock, if_neg hbook]
    refine ⟨.done id, hi, hb.trans ?_⟩
    have hne : Kind.order ≠ .stockItem := by decide
    have horders := (shelved shelf w).put_of_ne id (some (StockItem.mk id sku onHand 0)) hne
    have hstock := (shelved shelf w).stock_put id ⟨id, sku, onHand, 0⟩
    rw [List.nil_append, htypes]
    exact congrArg₂ (fun o s => Books.mk o s _) horders hstock

theorem cancel_matched (hp : 3 ≤ patience) (h : Idle shelf ⟨batches⟩ w) (c : CancelOrder) :
    Matched shelf batches ((Command.cancel c).run shelf patience w)
      (Books.cancel c (books shelf w)) := by
  unfold Books.cancel
  rw [books_orders]
  cases ho : shelved shelf w .order c.orderId with
  | none =>
    obtain ⟨k, hk, hs⟩ := h.opened.cancel_unknown ho
    obtain ⟨v, hv, hi, hb⟩ := h.failed patience (c := .cancel c) hk hs rfl
    rw [hv]
    exact ⟨.unknown c.orderId, hi, hb⟩
  | some o =>
    dsimp only
    by_cases hc : o.status = .cancelled
    · obtain ⟨text, k, hk, hs⟩ := h.opened.cancel_again rfl ho hc
      obtain ⟨v, hv, hi, hb⟩ := h.failed patience (c := .cancel c) hk hs rfl
      rw [hv, if_pos hc]
      exact ⟨.invalid text, hi, hb⟩
    · obtain ⟨ms, k, hk, hms, hs⟩ := h.opened.cancel_placed rfl h.kept ho hc
      have hothers := ne_orderPlacedType hms (by decide)
      obtain ⟨d, hd, hz⟩ := hs.drain_others (h := ordering shelf patience) rfl rfl hothers
      obtain ⟨hid, hhook⟩ := h.kept .order _ _ ho
      have hkept := h.kept.put (k := .order) { o with status := .cancelled } hid
        (Order.beforeSave_withStatus hhook .cancelled)
      obtain ⟨v, hv, hi, hb⟩ := h.agreed (c := .cancel c) hp hk hd hz rfl hkept
      rw [hv, if_neg hc]
      refine ⟨.done c.orderId, hi, hb.trans ?_⟩
      have horders := (shelved shelf w).put_self .order c.orderId
        (some { o with status := .cancelled })
      have hstock := (shelved shelf w).stock_put_order c.orderId
        (some { o with status := .cancelled })
      rw [List.nil_append, hms]
      exact congrArg₂ (fun o s => Books.mk o s _) horders hstock

theorem place_free_matched (hp : 3 ≤ patience) (h : Idle shelf ⟨batches⟩ w) {c : PlaceOrder}
    (hq : ¬∃ l ∈ c.lines, l.quantity = 0) (ho : shelved shelf w .order c.orderId = none)
    (hlines : c.lines ≠ []) :
    Matched shelf batches ((Command.place c).run shelf patience w)
      (Books.place batches c (books shelf w)) := by
  obtain ⟨queue, k, hk, hc, hs⟩ := h.opened.place_free rfl hq ho hlines
  let order : Order := ⟨c.orderId, c.customerId, c.lines, .placed⟩
  have hkept := h.kept.put (k := .order) order rfl (Order.beforeSave_lines hlines)
  have hstock := (shelved shelf w).stock_put_order c.orderId (some order)
  have hpos : ∀ l ∈ c.lines, l.quantity ≠ 0 := fun l hl h0 => hq ⟨l, hl, h0⟩
  have hfree : ¬(none : Option Order).isSome = true := by simp
  rw [Books.place, if_neg hq, books_orders, ho, if_neg hlines, if_neg hfree]
  by_cases hcov : (books shelf w).stock.Covers c.lines
  · have hcov' : ((shelved shelf w).put .order c.orderId (some order)).stock.Covers c.lines := by
      rw [hstock]
      exact hcov
    rw [if_neg (not_not_intro hcov)]
    by_cases hbatches : batches < 2
    · obtain ⟨z, d, hd, hz, hset, hj⟩ := hs.drain_cascade (h := ordering shelf patience) rfl
        hc rfl hkept hpos hcov' hlines hbatches
      obtain ⟨v, hv, hi, hb⟩ := h.refused (c := .place c) hp hk hd hz hset
      rw [hj] at hb
      rw [hv, if_pos hbatches]
      exact ⟨.cascade _, hi, hb⟩
    · obtain ⟨z, d, hd, hz, hset, hj, hkept, ho, hstock'⟩ := hs.drain_covered
        (h := ordering shelf patience) rfl hc rfl hkept hpos hcov' (Nat.not_lt.mp hbatches)
      obtain ⟨v, hv, hi, hb⟩ := h.agreed (c := .place c) hp hk hd hz hset hkept
      have horders := ho.trans ((shelved shelf w).put_self .order c.orderId (some order))
      rw [hj, horders, hstock', hstock, List.append_assoc] at hb
      rw [hv, if_neg hbatches]
      exact ⟨.done c.orderId, hi, hb⟩
  · have hcov' : ¬((shelved shelf w).put .order c.orderId (some order)).stock.Covers c.lines := by
      rw [hstock]
      exact hcov
    obtain ⟨text, z, d, hd, hz, hset, hj⟩ := hs.drain_uncovered (h := ordering shelf patience) rfl
      hc rfl hkept hpos hcov'
    obtain ⟨v, hv, hi, hb⟩ := h.refused (c := .place c) hp hk hd hz hset
    rw [hj] at hb
    rw [hv, if_pos hcov]
    exact ⟨.uncovered _ text, hi, hb⟩

theorem place_matched (hp : 3 ≤ patience) (h : Idle shelf ⟨batches⟩ w) (c : PlaceOrder) :
    Matched shelf batches ((Command.place c).run shelf patience w)
      (Books.place batches c (books shelf w)) := by
  by_cases hq : ∃ l ∈ c.lines, l.quantity = 0
  · obtain ⟨text, k, hk, hs⟩ := h.opened.place_invalid hq
    obtain ⟨v, hv, hi, hb⟩ := h.failed patience (c := .place c) hk hs rfl
    rw [hv, Books.place, if_pos hq]
    exact ⟨.invalid text, hi, hb⟩
  cases ho : shelved shelf w .order c.orderId with
  | some o =>
    have hsome : (shelved shelf w .order c.orderId).isSome = true := by
      rw [ho]
      rfl
    obtain ⟨k, hk, hs⟩ := h.opened.place_taken hq hsome
    obtain ⟨v, hv, hi, hb⟩ := h.failed patience (c := .place c) hk hs rfl
    rw [Books.place, if_neg hq, books_orders, ho, hv]
    exact ⟨.taken .order c.orderId, hi, hb⟩
  | none =>
    by_cases hlines : c.lines = []
    · obtain ⟨text, k, hk, hs⟩ := h.opened.place_empty rfl ho hlines
      obtain ⟨v, hv, hi, hb⟩ := h.failed patience (c := .place c) hk hs rfl
      rw [Books.place, if_neg hq, books_orders, ho, hv, if_pos hlines]
      exact ⟨.empty c.orderId text, hi, hb⟩
    · exact place_free_matched hp h hq ho hlines

theorem run_matched (hp : 3 ≤ patience) (h : Idle shelf ⟨batches⟩ w) (c : Command) :
    Matched shelf batches (c.run shelf patience w) (Books.apply batches c (books shelf w)) := by
  cases c with
  | stock id sku onHand => exact stock_matched hp h id sku onHand
  | place c => exact place_matched hp h c
  | cancel c => exact cancel_matched hp h c

end Commands

/-- Runs commands one after the other, and lists the results. -/
def runAll {σ ρ : Type} (step : Command → σ → ρ × σ) : List Command → σ → List ρ × σ
  | [], s => ([], s)
  | c :: cs, s =>
    let r := step c s
    let rest := runAll step cs r.2
    (r.1 :: rest.1, rest.2)

theorem runAll_matched {shelf patience batches : Nat} {w : ShopWorld Empty H} (hp : 3 ≤ patience)
    (h : Idle shelf ⟨batches⟩ w) (cs : List Command) :
    List.Forall₂ Agrees (runAll (Command.run shelf patience) cs w).1
        (runAll (Books.apply batches) cs (books shelf w)).1 ∧
      Idle shelf ⟨batches⟩ (runAll (Command.run shelf patience) cs w).2 ∧
      books shelf (runAll (Command.run shelf patience) cs w).2 =
        (runAll (Books.apply batches) cs (books shelf w)).2 := by
  induction cs generalizing w with
  | nil => exact ⟨.nil, h, rfl⟩
  | cons c cs ih =>
    have hc := run_matched hp h c
    obtain ⟨hresults, hidle, hbooks⟩ := ih hc.idle
    rw [hc.books] at hresults hbooks
    exact ⟨.cons hc.result hresults, hidle, hbooks⟩

/-- A shop in which nothing has happened yet. -/
def newShop (batches : Nat) (supply : Supply) (clock : Instant) (own : H) : ShopWorld Empty H :=
  .start ⟨batches⟩ supply clock ⟨.empty, [], own⟩

theorem newShop_idle (shelf batches : Nat) (supply : Supply) (clock : Instant) (own : H) :
    Idle shelf ⟨batches⟩ (newShop batches supply clock own) where
  settings := rfl
  unbound _ := rfl
  unstaged r _ := by
    obtain ⟨kind, n⟩ := r
    cases kind <;> rfl
  detached k id row h := by
    cases k <;> cases h
  kept k id row h := by
    cases k <;> cases h

/-- Whatever commands come to a new shop, each has the result that it has in the books; afterwards
no transaction is under way, and the committed rows and the journal are those of the books. A
patience of three is enough, since a transaction has no more to ask than its unit and two tables. -/
theorem runAll_refines {patience : Nat} (hp : 3 ≤ patience) (shelf batches : Nat) (supply : Supply)
    (clock : Instant) (own : H) (cs : List Command) :
    List.Forall₂ Agrees
        (runAll (Command.run shelf patience) cs (newShop batches supply clock own)).1
        (runAll (Books.apply batches) cs .blank).1 ∧
      Idle shelf ⟨batches⟩
        (runAll (Command.run shelf patience) cs (newShop batches supply clock own)).2 ∧
      books shelf (runAll (Command.run shelf patience) cs (newShop batches supply clock own)).2 =
        (runAll (Books.apply batches) cs .blank).2 :=
  runAll_matched hp (newShop_idle shelf batches supply clock own) cs

/-- Five units are stocked and all of them ordered in two lines, so the next order is refused. -/
def busyDay : List Command :=
  [.stock (.ofNat 1) "WIDGET-1" 5,
    .place ⟨.ofNat 7, .ofNat 2, .ofNat 9, [⟨.ofNat 1, 3⟩, ⟨.ofNat 1, 2⟩]⟩,
    .place ⟨.ofNat 7, .ofNat 3, .ofNat 9, [⟨.ofNat 1, 1⟩]⟩,
    .cancel ⟨.ofNat 7, .ofNat 2, "customer request"⟩]

theorem runAll_refines_busyDay :
    3 ≤ 3 ∧
      (runAll (Books.apply 2) busyDay .blank).1 =
        [.ok (.ofNat 1), .ok (.ofNat 2), .error .uncovered, .ok (.ofNat 2)] ∧
      List.Forall₂ Agrees
        (runAll (Command.run 0 3) busyDay (newShop 2 ⟨0, 0⟩ .epoch ())).1
        (runAll (Books.apply 2) busyDay .blank).1 ∧
      Idle 0 ⟨2⟩ (runAll (Command.run 0 3) busyDay (newShop 2 ⟨0, 0⟩ .epoch ())).2 ∧
      books 0 (runAll (Command.run 0 3) busyDay (newShop 2 ⟨0, 0⟩ .epoch ())).2 =
        (runAll (Books.apply 2) busyDay .blank).2 :=
  ⟨Nat.le_refl 3, rfl, runAll_refines (Nat.le_refl 3) 0 2 ⟨0, 0⟩ .epoch () busyDay⟩

end Transactor.Shop
