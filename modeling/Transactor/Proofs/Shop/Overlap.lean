import Mathlib.Algebra.GroupWithZero.Nat
import Transactor.Proofs.Shop.Ledger
import Transactor.Proofs.Shop.Working

namespace Transactor.Shop

/-- A step of a transaction: it loads an item, reserves units of it and writes it back, or it ends.
-/
inductive StockStep where
  | reserve (t : TransactionId) (order correlation : Uuid) (line : PlacedLine)
  | commit (t : TransactionId)
  | rollback (t : TransactionId)

variable {H : Type}

def reserveIn (shelf : Nat) (t : TransactionId) (order correlation : Uuid) (line : PlacedLine) :
    ShopAct Empty H OrderingError Unit := do
  let u ← (WorldAct.currentUnit (.ofLocal t)).mapError .unitOfWork
  reserveLine shelf u order correlation line

def StockStep.run (h : Host (Party Empty) (Premises H)) (shelf : Nat) :
    StockStep → ShopTask Empty H OrderingError Unit
  | .reserve t order correlation line => Task.atOnce (reserveIn shelf t order correlation line)
  | .commit t => (h.commit t).mapError .transaction
  | .rollback t => (h.rollback t).mapError .transaction

/-- A step that was taken, how it ended, and the messages that were dispatched meanwhile. -/
structure Entry where
  step : StockStep
  exit : Exit OrderingError Unit
  sent : List Message

def Entry.success? (e : Entry) : Option Success :=
  match e.step, e.exit with
  | .reserve t _ _ line, .done () => some (.reserved t line.stockItemId line.quantity.toNat)
  | .commit t, .done () => some (.committed t)
  | _, _ => none

/-- The successes of a log. Both have the newest first. -/
def successes (log : List Entry) : List Success := log.filterMap Entry.success?

/-- The reservation that a message reports. -/
def reservation? (m : Message) : Option StockReserved :=
  match m.payload with
  | .lifecycle _ => none
  | .domain body =>
    match EventKind.ofDraft body.toDraft with
    | .ok (.stockReserved e) => if m.type = stockReservedType then some e else none
    | _ => none

/-- The units of an item that a message promises. -/
def promise (item : Uuid) (m : Message) : Nat :=
  match reservation? m with
  | some e => if e.stockItemId = item then e.quantity.toNat else 0
  | none => 0

def promisedBy (item : Uuid) (ms : List Message) : Nat := (ms.map (promise item)).sum

/-- The units of an item that are promised by messages dispatched in commits that succeeded. -/
def promised (item : Uuid) : List Entry → Nat
  | [] => 0
  | e :: log => match e.success? with
    | some (.committed _) => promisedBy item e.sent + promised item log
    | _ => promised item log

section Run

variable [Chronicle H (Party Empty)]

def takeStep (h : Host (Party Empty) (Premises H)) (shelf : Nat)
    (s : List Entry × ShopWorld Empty H) (step : StockStep) : List Entry × ShopWorld Empty H :=
  let r := step.run h shelf s.2
  (⟨step, r.1, dispatchedIn (r.2.past.drop s.2.past.length)⟩ :: s.1, r.2)

/-- Takes steps one after the other. The log has the last one first. -/
def takeSteps (h : Host (Party Empty) (Premises H)) (shelf : Nat) (w : ShopWorld Empty H)
    (steps : List StockStep) : List Entry × ShopWorld Empty H :=
  steps.foldl (takeStep h shelf) ([], w)

end Run

/-- The item with another count of reserved units. -/
def StockItem.holding (i : StockItem) (n : Nat) : StockItem := { i with reserved := .ofNat n }

namespace StockItem

variable (i : StockItem)

theorem holding_reserved : i.holding i.reserved.toNat = i := by
  rw [holding, UInt32.ofNat_toNat]

theorem toNat_holding {n : Nat} (h : n ≤ i.onHand.toNat) : (i.holding n).reserved.toNat = n := by
  have hlt := i.onHand.toNat_lt
  rw [holding, UInt32.toNat_ofNat', Nat.mod_eq_of_lt (by omega)]

theorem withReserved_holding (n : Nat) (q : UInt32) :
    (i.holding n).withReserved q = i.holding (n + q.toNat) := by
  rw [withReserved, holding, holding, UInt32.ofNat_add, UInt32.ofNat_toNat]

end StockItem

namespace Table

variable {E : Type} (T : Table E)

/-- What a transaction has staged under an identifier; a row that it removes is `some none`. -/
def stagedRow (t : TransactionId) (id : Uuid) : Option (Option E) :=
  (T.staged.get? t).bind fun rows => rows.get? id

theorem visible_eq (t : TransactionId) (id : Uuid) :
    T.visible t id = (T.stagedRow t id).getD (T.committed.get? id) := by
  unfold visible stagedRow
  split <;> rename_i h <;> rw [h] <;> rfl

theorem stagedRow_stage (t : TransactionId) (id : Uuid) (row : Option E) :
    (T.stage t id row).stagedRow t = Function.update (T.stagedRow t) id (some row) := by
  funext j
  simp only [stagedRow, stage, KeyedList.get?_insert_self, Option.bind_some,
    KeyedList.get?_insert, Function.update_apply]
  by_cases hj : j = id
  · simp only [hj, ↓reduceIte]
  · simp only [hj, ↓reduceIte, KeyedList.getD]
    cases T.staged.get? t <;> rfl

end Table

theorem reservation?_eventMessage (stamp : Stamp) (aggregate correlation : Uuid)
    (e : StockReserved) :
    reservation? (eventMessage stamp aggregate correlation (.stockReserved e)) = some e := by
  simp only [reservation?, eventMessage, Event.message, EventKind.ofDraft_toJson]
  rfl

theorem reservation?_of_type {m : Message} (h : m.type ≠ stockReservedType) :
    reservation? m = none := by
  unfold reservation?
  split
  · rfl
  · split
    · exact if_neg h
    · rfl

/-- The messages of a transaction are about stock, and promise what it has reserved. -/
structure Promising (es : List Success) (t : TransactionId) (queue : List Message) : Prop where
  about : ∀ m ∈ queue, AboutStock m
  units : ∀ item, promisedBy item queue = drawn item t es

namespace Promising

variable {es : List Success} {t x : TransactionId} {queue : List Message}

theorem nil {t : TransactionId} : Promising [] t [] :=
  ⟨fun _ h => absurd h List.not_mem_nil, fun _ => rfl⟩

theorem committed (h : Promising es t queue) (x : TransactionId) :
    Promising (.committed x :: es) t queue := ⟨h.about, h.units⟩

theorem reserved_of_ne (h : Promising es t queue) (hx : x ≠ t) (item : Uuid) (n : Nat) :
    Promising (.reserved x item n :: es) t queue where
  about := h.about
  units id := by
    rw [h.units, drawn_reserved, if_neg fun he => hx he.2, Nat.zero_add]

theorem reserved_self (h : Promising es t queue) {m : Message}
    (hm : m.type = "aggregate.post_updated") (stamp : Stamp) (aggregate correlation : Uuid)
    (e : StockReserved) :
    Promising (.reserved t e.stockItemId e.quantity.toNat :: es) t
      (queue ++ [m, eventMessage stamp aggregate correlation (.stockReserved e)]) where
  about n hn := by
    obtain hn | hn := List.mem_append.mp hn
    · exact h.about n hn
    · obtain rfl | hn := List.mem_cons.mp hn
      · exact .inl hm
      · rw [List.mem_singleton.mp hn]
        exact .inr rfl
  units item := by
    have hne : m.type ≠ stockReservedType := by
      rw [hm]
      decide
    have hold := h.units item
    rw [promisedBy] at hold
    rw [promisedBy, List.map_append, List.sum_append, hold, drawn_reserved, Nat.add_comm]
    simp only [List.map_cons, List.map_nil, List.sum_cons, List.sum_nil, promise,
      reservation?_of_type hne, reservation?_eventMessage, and_true, Nat.zero_add, Nat.add_zero]

end Promising

/-- The table of the stock. -/
def stockTable (shelf : Nat) (w : ShopWorld Empty H) : Table (Tracked StockItem) :=
  (TableRef.mk .stockItem shelf).table w

section Recorded

variable {shelf : Nat} {stock : Uuid → Option StockItem} {es : List Success} {log : List Entry}
  {e : Entry} {t : TransactionId} {w v : ShopWorld Empty H}

def countsOf (stock : Uuid → Option StockItem) (id : Uuid) : Nat :=
  ((stock id).map fun i => i.reserved.toNat).getD 0

theorem countsOf_some {id : Uuid} {i : StockItem} (h : stock id = some i) :
    countsOf stock id = i.reserved.toNat := by
  rw [countsOf, h]
  rfl

/-- The ledger of a history, kept from the counts of a stock on. -/
def ledger (stock : Uuid → Option StockItem) (es : List Success) : Ledger :=
  .after (countsOf stock) es

theorem ledger_cons (stock : Uuid → Option StockItem) (s : Success) (es : List Success) :
    ledger stock (s :: es) = (ledger stock es).enter s := rfl

/-- A shop that began with a stock is where a history has led it. The committed rows and those of
open transactions differ from that stock in nothing but the counts, which are those of the ledger.
-/
structure Recorded (shelf : Nat) (stock : Uuid → Option StockItem) (es : List Success)
    (w : ShopWorld Empty H) : Prop where
  closed : ∀ t, .committed t ∈ es → (w.transaction t).status.isActive = false
  phase : ∀ t, ∃ queue, Phase shelf t queue w ∧ Promising es t queue
  unmarked : Unmarked shelf w
  committed : ∀ id, (stockTable shelf w).committed.get? id =
    (stock id).map fun i => .fresh (i.holding ((ledger stock es).counts id))
  staged : ∀ t, (w.transaction t).status.isActive = true → ∀ id,
    (stockTable shelf w).stagedRow t id =
      ((ledger stock es).drafts t id).bind fun n =>
        (stock id).map fun i => some (.fresh (i.holding n))
  covered : ∀ id i, stock id = some i → (ledger stock es).counts id ≤ i.onHand.toNat ∧
    ∀ t, (ledger stock es).seen t id ≤ i.onHand.toNat

theorem Spares.stagedRow (h : Spares shelf t w v) {x : TransactionId} (hx : x ≠ t) :
    (stockTable shelf v).stagedRow x = (stockTable shelf w).stagedRow x := by
  have hrows : (stockTable shelf v).staged.get? x = (stockTable shelf w).staged.get? x :=
    h.staged x hx .stockItem
  funext id
  rw [Table.stagedRow, hrows, Table.stagedRow]

namespace Recorded

theorem opened (h : Recorded shelf stock es w) (ha : (w.transaction t).status.isActive = true) :
    .committed t ∉ es := by
  intro hm
  have hclosed := h.closed t hm
  rw [ha] at hclosed
  cases hclosed

/-- What an open transaction sees. -/
theorem visible (h : Recorded shelf stock es w)
    (ha : (w.transaction t).status.isActive = true) (id : Uuid) :
    (stockTable shelf w).visible t id =
      (stock id).map fun i => .fresh (i.holding ((ledger stock es).seen t id)) := by
  rw [Table.visible_eq, h.staged t ha, h.committed]
  cases hd : (ledger stock es).drafts t id with
  | none =>
    rw [Ledger.seen_of_none _ hd]
    rfl
  | some n =>
    rw [Ledger.seen_of_draft _ hd]
    cases stock id <;> rfl

theorem shelved (h : Recorded shelf stock es w) (id : Uuid) : Shop.shelved shelf w .stockItem id =
    (stock id).map fun i => i.holding ((ledger stock es).counts id) := by
  have hc : ((TableRef.mk .stockItem shelf).table w).committed.get? id = _ := h.committed id
  rw [Shop.shelved, hc, Option.map_map]
  rfl

/-- When a transaction moves, the others stay where they were. -/
theorem phases {fs : List Success} (h : Recorded shelf stock es w) (hs : Spares shelf t w v)
    (hv : Unmarked shelf v) (hp : ∃ queue, Phase shelf t queue v ∧ Promising fs t queue)
    (hother : ∀ x queue, x ≠ t → Promising es x queue → Promising fs x queue)
    (x : TransactionId) : ∃ queue, Phase shelf x queue v ∧ Promising fs x queue := by
  by_cases hx : x = t
  · subst hx
    exact hp
  · obtain ⟨queue, hph, hpr⟩ := h.phase x
    exact ⟨queue, hph.spared hs hv hx, hother x queue hx hpr⟩

theorem unchanged (h : Recorded shelf stock es w) (hs : Spares shelf t w v)
    (hv : Unmarked shelf v)
    (hc : (stockTable shelf v).committed = (stockTable shelf w).committed)
    (hp : ∃ queue, Phase shelf t queue v ∧ Promising es t queue)
    (ht : (v.transaction t).status.isActive = true → (w.transaction t).status.isActive = true ∧
      (stockTable shelf v).stagedRow t = (stockTable shelf w).stagedRow t) :
    Recorded shelf stock es v := by
  have hopen : ∀ x, (v.transaction x).status.isActive = true →
      (w.transaction x).status.isActive = true ∧
        (stockTable shelf v).stagedRow x = (stockTable shelf w).stagedRow x := by
    intro x hx
    by_cases hxt : x = t
    · subst hxt
      exact ht hx
    · rw [hs.transaction x hxt] at hx
      exact ⟨hx, hs.stagedRow hxt⟩
  exact {
    closed := by
      intro x hx
      rw [← Bool.not_eq_true]
      intro hactive
      exact h.opened (hopen x hactive).1 hx
    phase := h.phases hs hv hp fun _ _ _ hpr => hpr
    unmarked := hv
    committed := by
      intro id
      rw [hc]
      exact h.committed id
    staged := by
      intro x hx id
      rw [(hopen x hx).2]
      exact h.staged x (hopen x hx).1 id
    covered := h.covered }

theorem reserved (h : Recorded shelf stock es w) {id : Uuid} {n : Nat} {i : StockItem}
    (ha : (w.transaction t).status.isActive = true) (hi : stock id = some i)
    (hle : (ledger stock es).seen t id + n ≤ i.onHand.toNat) (hs : Spares shelf t w v)
    (hv : Unmarked shelf v)
    (htable : stockTable shelf v = (stockTable shelf w).stage t id
      (some (.fresh (i.holding ((ledger stock es).seen t id + n)))))
    (hp : ∃ queue, Phase shelf t queue v ∧ Promising (.reserved t id n :: es) t queue) :
    Recorded shelf stock (.reserved t id n :: es) v where
  closed x hx := by
    have hx' : .committed x ∈ es := by simpa using hx
    have hne : x ≠ t := by
      rintro rfl
      exact h.opened ha hx'
    rw [hs.transaction x hne]
    exact h.closed x hx'
  phase := h.phases hs hv hp fun _ _ hx hpr => hpr.reserved_of_ne hx.symm id n
  unmarked := hv
  committed j := by
    rw [htable]
    exact h.committed j
  staged x hx j := by
    rw [ledger_cons]
    by_cases hxt : x = t
    · subst hxt
      rw [htable, Table.stagedRow_stage]
      by_cases hj : j = id
      · subst hj
        rw [Function.update_self, Ledger.drafts_reserved_self, hi]
        rfl
      · rw [Function.update_of_ne hj, Ledger.drafts_reserved_of_ne _ _ (.inr hj)]
        exact h.staged x ha j
    · rw [hs.transaction x hxt] at hx
      rw [hs.stagedRow hxt, Ledger.drafts_reserved_of_ne _ _ (.inl hxt)]
      exact h.staged x hx j
  covered j k hk := by
    rw [ledger_cons]
    refine ⟨(h.covered j k hk).1, ?_⟩
    intro x
    by_cases hself : x = t ∧ j = id
    · obtain ⟨rfl, rfl⟩ := hself
      rw [Ledger.seen_reserved_self]
      rw [hi] at hk
      cases hk
      exact hle
    · have hne : x ≠ t ∨ j ≠ id := by grind
      rw [Ledger.seen_reserved_of_ne _ _ hne]
      exact (h.covered j k hk).2 x

theorem reserve (h : Recorded shelf stock es w) (hid : ∀ id i, stock id = some i → i.id = id)
    (ha : (w.transaction t).status.isActive = true) (order correlation : Uuid)
    (line : PlacedLine) :
    (∃ v, reserveIn shelf t order correlation line w = (.ok (), v) ∧ 0 < line.quantity.toNat ∧
        Recorded shelf stock (.reserved t line.stockItemId line.quantity.toNat :: es) v) ∨
      ∃ e v, reserveIn shelf t order correlation line w = (.error e, v) ∧
        Recorded shelf stock es v := by
  obtain ⟨queue, hph, hpr⟩ := h.phase t
  obtain ⟨u, m, hm, hw, hhost, hs⟩ := hph.current h.unmarked ha
  have hrun : reserveIn shelf t order correlation line w =
    reserveLine shelf u order correlation line m := Act.bind_ok (Act.mapError_ok hm)
  have htable : stockTable shelf m = stockTable shelf w := TableRef.table_congr hhost _
  have hsight : sight shelf t m .stockItem line.stockItemId = (stock line.stockItemId).map
      fun i => i.holding ((ledger stock es).seen t line.stockItemId) := by
    have hvisible : (stockTable shelf m).visible t line.stockItemId = _ :=
      htable ▸ h.visible ha line.stockItemId
    rw [sight]
    exact (congrArg (Option.map Tracked.body) hvisible).trans (Option.map_map _ _ _)
  by_cases henough : ∃ i, sight shelf t m .stockItem line.stockItemId = some i ∧
      line.quantity ≠ 0 ∧ line.quantity.toNat ≤ (StockItem.product i).available
  · left
    obtain ⟨i, hi, hn, hle⟩ := henough
    obtain ⟨i, hstock, rfl⟩ := Option.map_eq_some_iff.mp (hsight.symm.trans hi)
    have hseen := StockItem.toNat_holding i ((h.covered _ i hstock).2 t)
    have hcovered := (StockItem.toNat_withReserved hle hn).2
    rw [hseen] at hcovered
    obtain ⟨stamp, remaining, n, v, hv, hn', hw', hs', hhost'⟩ :=
      hw.reserve_enough hi (hid _ i hstock) hn hle order correlation
    have htable' : stockTable shelf v = (stockTable shelf w).stage t line.stockItemId
        (some (.fresh (i.holding ((ledger stock es).seen t line.stockItemId +
          line.quantity.toNat)))) := by
      rw [← StockItem.withReserved_holding, ← htable]
      exact (TableRef.table_congr hhost' _).trans (TableRef.table_setTable_self _ _)
    have hpos : 0 < line.quantity.toNat :=
      Nat.pos_of_ne_zero fun h0 => hn (UInt32.toNat_inj.mp h0)
    have hunmarked := (h.unmarked.congr hhost).stage (k := .stockItem) t line.stockItemId _ hhost'
    refine ⟨v, hrun.trans hv, hpos,
      h.reserved ha hstock hcovered (hs.trans hs') hunmarked htable' ?_⟩
    exact ⟨_, .working hw', hpr.reserved_self hn' stamp line.stockItemId correlation
      ⟨line.stockItemId, order, line.quantity, remaining⟩⟩
  · right
    obtain ⟨e, v, hv, hw', hs', hhost'⟩ := hw.reserve_refused henough order correlation
    have htable' : stockTable shelf v = stockTable shelf w :=
      TableRef.table_congr (hhost'.trans hhost) _
    refine ⟨e, v, hrun.trans hv, ?_⟩
    refine h.unchanged (hs.trans hs') (h.unmarked.congr (hhost'.trans hhost)) ?_
      ⟨queue, .working hw', hpr⟩ ?_
    · rw [htable']
    · exact fun _ => ⟨ha, by rw [htable']⟩

section Settled

variable [Chronicle H (Party Empty)] {calls : List (Call (Party Empty))}

/-- A commit makes what its transaction has drawn up the committed counts. -/
theorem settled (h : Recorded shelf stock es w)
    (ha : (w.transaction t).status.isActive = true)
    (hf : Finished shelf t .committed calls w v) :
    Recorded shelf stock (.committed t :: es) v where
  closed x hx := by
    by_cases hxt : x = t
    · rw [hxt]
      exact hf.closed
    · have hx' : .committed x ∈ es := by simpa [hxt] using hx
      rw [hf.spares.transaction x hxt]
      exact h.closed x hx'
  phase := by
    obtain ⟨queue, -, hpr⟩ := h.phase t
    exact h.phases hf.spares (h.unmarked.settle hf.tables)
      ⟨queue, .closed hf.closed, hpr.committed t⟩ fun _ _ _ hpr => hpr.committed t
  unmarked := h.unmarked.settle hf.tables
  committed id := by
    have htable : stockTable shelf v = (stockTable shelf w).settle t .committed :=
      hf.tables .stockItem
    rw [htable, Table.get?_settle_committed]
    exact h.visible ha id
  staged x hx id := by
    have hxt : x ≠ t := by
      rintro rfl
      rw [hf.closed] at hx
      cases hx
    rw [hf.spares.transaction x hxt] at hx
    rw [hf.spares.stagedRow hxt, ledger_cons, Ledger.drafts_committed_of_ne _ hxt]
    exact h.staged x hx id
  covered id i hi := by
    obtain ⟨-, hseen⟩ := h.covered id i hi
    rw [ledger_cons]
    exact ⟨hseen t, Ledger.seen_committed_le _ hseen⟩

theorem rolledBack (h : Recorded shelf stock es w)
    (hf : Finished shelf t .rolledBack calls w v) : Recorded shelf stock es v := by
  have htable : stockTable shelf v = (stockTable shelf w).settle t .rolledBack :=
    hf.tables .stockItem
  obtain ⟨queue, -, hpr⟩ := h.phase t
  refine h.unchanged hf.spares (h.unmarked.settle hf.tables) ?_ ⟨queue, .closed hf.closed, hpr⟩ ?_
  · rw [htable]
    rfl
  · intro hv
    rw [hf.closed] at hv
    cases hv

end Settled

end Recorded

/-- A shop that began with a stock has come by a log. Every step of the log has ended, nothing was
reserved without effect, and what was promised has been sold. -/
structure Logged (shelf : Nat) (stock : Uuid → Option StockItem) (log : List Entry)
    (w : ShopWorld Empty H) : Prop where
  ends : ∀ e ∈ log, ∃ r, e.exit = .ofExcept r
  orderly : Orderly (successes log)
  promised : ∀ item, promised item log = sold item (successes log)
  recorded : Recorded shelf stock (successes log) w

namespace Logged

theorem silent (h : Logged shelf stock log w) (hn : e.success? = none)
    (hend : ∃ r, e.exit = .ofExcept r) (hv : Recorded shelf stock (successes log) v) :
    Logged shelf stock (e :: log) v := by
  have hes : successes (e :: log) = successes log := List.filterMap_cons_none hn
  refine ⟨List.forall_mem_cons.mpr ⟨hend, h.ends⟩, ?_, ?_, ?_⟩
  · rw [hes]
    exact h.orderly
  · intro item
    rw [hes, ← h.promised, Shop.promised, hn]
  · rw [hes]
    exact hv

theorem reserved (h : Logged shelf stock log w) {id : Uuid} {n : Nat}
    (hsuccess : e.success? = some (.reserved t id n)) (hend : ∃ r, e.exit = .ofExcept r)
    (hopen : .committed t ∉ successes log) (hn : 0 < n)
    (hv : Recorded shelf stock (.reserved t id n :: successes log) v) :
    Logged shelf stock (e :: log) v := by
  have hes : successes (e :: log) = .reserved t id n :: successes log :=
    List.filterMap_cons_some hsuccess
  refine ⟨List.forall_mem_cons.mpr ⟨hend, h.ends⟩, ?_, ?_, ?_⟩
  · rw [hes]
    exact h.orderly.reserved hopen id hn
  · intro item
    rw [hes, sold_reserved item hopen, ← h.promised, Shop.promised, hsuccess]
  · rw [hes]
    exact hv

theorem committed (h : Logged shelf stock log w) (hsuccess : e.success? = some (.committed t))
    (hend : ∃ r, e.exit = .ofExcept r) (hopen : .committed t ∉ successes log)
    (hsent : Promising (successes log) t e.sent)
    (hv : Recorded shelf stock (.committed t :: successes log) v) :
    Logged shelf stock (e :: log) v := by
  have hes : successes (e :: log) = .committed t :: successes log :=
    List.filterMap_cons_some hsuccess
  refine ⟨List.forall_mem_cons.mpr ⟨hend, h.ends⟩, ?_, ?_, ?_⟩
  · rw [hes]
    exact h.orderly.committed hopen
  · intro item
    rw [hes, sold_committed item hopen, Shop.promised, hsuccess, ← h.promised, ← hsent.units,
      Nat.add_comm]
  · rw [hes]
    exact hv

section Steps

variable [Chronicle H (Party Empty)] {deliver : Dispatcher (Party Empty) (Premises H)}
  {patience : Nat}

theorem takeStep_eq {h : Host (Party Empty) (Premises H)} {x : StockStep}
    {r : Exit OrderingError Unit} (hr : x.run h shelf w = (r, v)) :
    takeStep h shelf (log, w) x =
      (⟨x, r, dispatchedIn (v.past.drop w.past.length)⟩ :: log, v) := by
  simp only [takeStep, hr]

variable (h : Logged shelf stock log w)

include h

theorem step_commit (hd : Discreet deliver) (hp : 3 ≤ patience) (t : TransactionId) :
    Logged shelf stock (takeStep (dealing deliver patience) shelf (log, w) (.commit t)).1
      (takeStep (dealing deliver patience) shelf (log, w) (.commit t)).2 := by
  have hrun : StockStep.run (dealing deliver patience) shelf (.commit t) w =
    ((dealing deliver patience).commit t).mapError .transaction w := rfl
  cases ha : (w.transaction t).status.isActive with
  | false =>
    rw [Task.mapError_failed (Host.commit_closed _ t ha)] at hrun
    rw [takeStep_eq hrun]
    exact h.silent rfl ⟨.error _, rfl⟩ h.recorded
  | true =>
    obtain ⟨queue, hph, hpr⟩ := h.recorded.phase t
    obtain ⟨v, calls, hv, hsent, hf⟩ | ⟨e, v, calls, hv, hf⟩ := hph.commit ha hpr.about hd hp
    · rw [Task.mapError_done hv] at hrun
      rw [takeStep_eq hrun, hf.past, List.drop_left, hsent]
      exact h.committed rfl ⟨.ok (), rfl⟩ (h.recorded.opened ha) hpr (h.recorded.settled ha hf)
    · rw [Task.mapError_failed hv] at hrun
      rw [takeStep_eq hrun]
      exact h.silent rfl ⟨.error _, rfl⟩ (h.recorded.rolledBack hf)

theorem step_rollback (t : TransactionId) :
    Logged shelf stock (takeStep (dealing deliver patience) shelf (log, w) (.rollback t)).1
      (takeStep (dealing deliver patience) shelf (log, w) (.rollback t)).2 := by
  have hrun : StockStep.run (dealing deliver patience) shelf (.rollback t) w =
    ((dealing deliver patience).rollback t).mapError .transaction w := rfl
  cases ha : (w.transaction t).status.isActive with
  | false =>
    rw [Task.mapError_failed (Host.rollback_closed _ t ha)] at hrun
    rw [takeStep_eq hrun]
    exact h.silent rfl ⟨.error _, rfl⟩ h.recorded
  | true =>
    obtain ⟨queue, hph, hpr⟩ := h.recorded.phase t
    obtain ⟨v, calls, hv, hf⟩ := hph.rollback deliver patience ha
    rw [Task.mapError_done hv] at hrun
    rw [takeStep_eq hrun]
    exact h.silent rfl ⟨.ok (), rfl⟩ (h.recorded.rolledBack hf)

theorem step_reserve (hid : ∀ id i, stock id = some i → i.id = id)
    (host : Host (Party Empty) (Premises H)) (t : TransactionId) (order correlation : Uuid)
    (line : PlacedLine) :
    Logged shelf stock (takeStep host shelf (log, w) (.reserve t order correlation line)).1
      (takeStep host shelf (log, w) (.reserve t order correlation line)).2 := by
  have hrun : StockStep.run host shelf (.reserve t order correlation line) w =
    Task.atOnce (reserveIn shelf t order correlation line) w := rfl
  rw [Task.atOnce_apply] at hrun
  cases ha : (w.transaction t).status.isActive with
  | false =>
    rw [reserveIn, Act.bind_error (Act.mapError_error (WorldAct.currentUnit_over w ha))] at hrun
    rw [takeStep_eq hrun]
    exact h.silent rfl ⟨.error _, rfl⟩ h.recorded
  | true =>
    obtain ⟨v, hv, hn, hr⟩ | ⟨e, v, hv, hr⟩ := h.recorded.reserve hid ha order correlation line
    · rw [hv] at hrun
      rw [takeStep_eq hrun]
      exact h.reserved rfl ⟨.ok (), rfl⟩ (h.recorded.opened ha) hn hr
    · rw [hv] at hrun
      rw [takeStep_eq hrun]
      exact h.silent rfl ⟨.error e, rfl⟩ hr

end Steps

end Logged

/-- Every transaction has just begun or is over, and every committed row is in order. -/
structure Ready (shelf : Nat) (w : ShopWorld Empty H) : Prop where
  begun : ∀ t, w.transaction t = .begin ∨ (w.transaction t).status.isActive = false
  unbound : ∀ t, w.bound.get? t = none
  unstaged : ∀ k t, ((TableRef.mk k shelf).table w).staged.get? t = none
  unmarked : Unmarked shelf w
  kept : Kept (shelved shelf w)

theorem Ready.recorded (h : Ready shelf w) :
    Recorded shelf (shelved shelf w .stockItem) [] w where
  closed _ hm := absurd hm List.not_mem_nil
  phase t := by
    refine ⟨[], ?_, .nil⟩
    obtain hb | hc := h.begun t
    · exact .fresh hb (h.unbound t) (fun k => h.unstaged k t) rfl
    · exact .closed hc
  unmarked := h.unmarked
  committed id := by
    have hrow : (stockTable shelf w).committed.get? id =
        (shelved shelf w .stockItem id).map .fresh :=
      (Tracked.map_fresh_body ((h.unmarked .stockItem).committed id)).symm
    rw [hrow]
    cases hi : shelved shelf w .stockItem id with
    | none => rfl
    | some i =>
      have hcount : (ledger (shelved shelf w .stockItem) []).counts id = i.reserved.toNat :=
        countsOf_some hi
      change some (Tracked.fresh i) =
        some (.fresh (i.holding ((ledger (shelved shelf w .stockItem) []).counts id)))
      rw [hcount, StockItem.holding_reserved]
  staged t _ id := by
    rw [Table.stagedRow, stockTable, h.unstaged .stockItem t]
    rfl
  covered id i hi := by
    have hle : countsOf (shelved shelf w .stockItem) id ≤ i.onHand.toNat := by
      rw [countsOf_some hi, ← UInt32.le_iff_toNat_le]
      have hhook : Aggregate.beforeSave i = (.ok (), i) := (h.kept .stockItem id i hi).2
      by_contra hlt
      have hrefused : Aggregate.beforeSave i = (.error _, i) := if_pos (UInt32.not_le.mp hlt)
      rw [hhook] at hrefused
      cases hrefused
    exact ⟨hle, fun _ => hle⟩

theorem Ready.logged (h : Ready shelf w) : Logged shelf (shelved shelf w .stockItem) [] w where
  ends _ hm := absurd hm List.not_mem_nil
  orderly := .nil
  promised _ := rfl
  recorded := h.recorded

section Run

variable [Chronicle H (Party Empty)]

theorem Logged.steps (h : Logged shelf stock log w)
    (hid : ∀ id i, stock id = some i → i.id = id)
    {deliver : Dispatcher (Party Empty) (Premises H)} (hd : Discreet deliver) {patience : Nat}
    (hp : 3 ≤ patience) (steps : List StockStep) :
    Logged shelf stock (steps.foldl (takeStep (dealing deliver patience) shelf) (log, w)).1
      (steps.foldl (takeStep (dealing deliver patience) shelf) (log, w)).2 := by
  induction steps generalizing log w with
  | nil => exact h
  | cons x steps ih =>
    rw [List.foldl_cons]
    apply ih
    cases x with
    | reserve t order correlation line => exact h.step_reserve hid _ t order correlation line
    | commit t => exact h.step_commit hd hp t
    | rollback t => exact h.step_rollback t

/-- How an item has come out of a run. The count never exceeds the units on hand. It is short of
what has been sold exactly if a transaction was overtaken, and then more may have been promised than
there is. -/
structure Reckoned (item : Uuid) (log : List Entry) (i j : StockItem) : Prop where
  same : { j with reserved := i.reserved } = i
  covered : j.reserved.toNat ≤ j.onHand.toNat
  le : j.reserved.toNat ≤ i.reserved.toNat + sold item (successes log)
  eq : j.reserved.toNat = i.reserved.toNat + sold item (successes log) ↔
    ¬Overtaken item (successes log)
  promised : promised item log = sold item (successes log)
  honoured : ¬Overtaken item (successes log) →
    i.reserved.toNat + Shop.promised item log ≤ i.onHand.toNat

/-- Transactions that are open side by side may take steps in any order: each step ends, no item
comes or goes, and the committed count of an item is what it was and the units sold of it, unless a
transaction that reserved units of it committed after another one had done so in the meantime. -/
theorem takeSteps_reckoned (h : Ready shelf w)
    {deliver : Dispatcher (Party Empty) (Premises H)} (hd : Discreet deliver) {patience : Nat}
    (hp : 3 ≤ patience) (steps : List StockStep) :
    let r := takeSteps (dealing deliver patience) shelf w steps
    (∀ e ∈ r.1, ∃ x, e.exit = .ofExcept x) ∧
      (∀ id, shelved shelf w .stockItem id = none → shelved shelf r.2 .stockItem id = none) ∧
      ∀ id i, shelved shelf w .stockItem id = some i →
        ∃ j, shelved shelf r.2 .stockItem id = some j ∧ Reckoned id r.1 i j := by
  intro r
  have hl : Logged shelf (shelved shelf w .stockItem) r.1 r.2 :=
    h.logged.steps (fun id i hi => (h.kept .stockItem id i hi).1) hd hp steps
  have hr := hl.recorded
  refine ⟨hl.ends, ?_, ?_⟩
  · intro id hnone
    have hc := hr.shelved id
    rwa [hnone] at hc
  · intro id i hi
    have hc := hr.shelved id
    rw [hi] at hc
    let l := ledger (shelved shelf w .stockItem) (successes r.1)
    have hcovered : l.counts id ≤ i.onHand.toNat := (hr.covered id i hi).1
    have hcount := i.toNat_holding hcovered
    have hb := hl.orderly.balance (countsOf (shelved shelf w .stockItem)) id
    have hle : l.counts id ≤ i.reserved.toNat + sold id (successes r.1) := by
      rw [← countsOf_some hi]
      exact hb.le
    have heq : l.counts id = i.reserved.toNat + sold id (successes r.1) ↔
        ¬Overtaken id (successes r.1) := by
      rw [← countsOf_some hi]
      exact hb.eq
    refine ⟨i.holding (l.counts id), hc, rfl, ?_, ?_, ?_, hl.promised id, ?_⟩
    · rw [hcount]
      exact hcovered
    · rw [hcount]
      exact hle
    · rw [hcount]
      exact heq
    · intro hno
      rw [hl.promised, ← heq.mpr hno]
      exact hcovered

theorem handlers_discreet (shelf : Nat) :
    Discreet (Dispatcher.inProcess (handlers shelf) : Dispatcher (Party Empty) (Premises H)) := by
  intro batch u w hb
  induction batch generalizing w with
  | nil => exact ⟨.ok (), w, rfl, .refl w, rfl, rfl⟩
  | cons m batch ih =>
    rw [List.forall_mem_cons] at hb
    have hne : m.type ≠ orderPlacedType := by
      obtain hm | hm := hb.1
      · rw [hm]
        decide
      · rw [hm]
        decide
    obtain ⟨r, v, hv, hs, hset, hp⟩ := ih (keepJournal m u w).2 hb.2
    have hkept : SameRecords w (keepJournal m u w).2 := ⟨rfl, rfl, rfl, rfl⟩
    exact ⟨r, v, (inProcess_other shelf hne rfl batch).trans hv, hkept.trans hs, hset, hp⟩

end Run

end Recorded

/-- A shop whose host remembers all calls. -/
abbrev Attentive := ShopWorld Empty (List (Call (Party Empty)))

def widget : Uuid := .ofNat 1

def tenWidgets : StockItem := ⟨widget, "WIDGET-1", 10, 0⟩

def firstBuyer : TransactionId := ⟨.ofNat 8⟩

def secondBuyer : TransactionId := ⟨.ofNat 9⟩

/-- There are ten widgets, and two transactions have begun. -/
def twoBuyers : Attentive :=
  let rows := (∅ : KeyedList Uuid (Tracked StockItem)).insert widget (.fresh tenWidgets)
  let start : Attentive :=
    .first ⟨2⟩ ⟨Tables.empty.set ⟨.stockItem, 0⟩ ⟨rows, ∅⟩, [], []⟩
  (start.setTransaction firstBuyer .begin).setTransaction secondBuyer .begin

/-- Both reserve widgets before either commits. -/
def sideBySide (m n : UInt32) : List StockStep :=
  [.reserve firstBuyer (.ofNat 3) (.ofNat 3) ⟨widget, m⟩,
    .reserve secondBuyer (.ofNat 4) (.ofNat 4) ⟨widget, n⟩,
    .commit firstBuyer, .commit secondBuyer]

def afterBoth (m n : UInt32) : List Entry × Attentive :=
  takeSteps (dealing (Dispatcher.inProcess (handlers 0)) 3) 0 twoBuyers (sideBySide m n)

/-- When two widgets are sold and three, only three are counted. When six are sold and seven, three
are promised that do not exist. -/
theorem takeSteps_loses_reservation :
    shelved 0 twoBuyers .stockItem widget = some tenWidgets ∧
      successes (afterBoth 2 3).1 =
        [.committed secondBuyer, .committed firstBuyer,
          .reserved secondBuyer widget 3, .reserved firstBuyer widget 2] ∧
      sold widget (successes (afterBoth 2 3).1) = 5 ∧
      shelved 0 (afterBoth 2 3).2 .stockItem widget = some { tenWidgets with reserved := 3 } ∧
      promised widget (afterBoth 6 7).1 = 13 := by
  decide +kernel

theorem get?_twoBuyers {id : Uuid} {row : Tracked StockItem}
    (h : (stockTable 0 twoBuyers).committed.get? id = some row) :
    id = widget ∧ row = .fresh tenWidgets := by
  have hget : ((∅ : KeyedList Uuid (Tracked StockItem)).insert widget (.fresh tenWidgets)).get? id =
      some row := h
  rw [KeyedList.get?_insert] at hget
  split at hget
  · rename_i hid
    cases hget
    exact ⟨hid, rfl⟩
  · cases hget

theorem ready_twoBuyers : Ready 0 twoBuyers where
  begun t := by
    by_cases hs : t = secondBuyer
    · subst hs
      exact .inl (World.transaction_setTransaction_self _ _ _)
    · rw [twoBuyers, World.transaction_setTransaction_of_ne _ _ hs]
      by_cases hf : t = firstBuyer
      · subst hf
        exact .inl (World.transaction_setTransaction_self _ _ _)
      · rw [World.transaction_setTransaction_of_ne _ _ hf]
        exact .inr rfl
  unbound _ := rfl
  unstaged k t := by
    cases k <;> rfl
  unmarked k := by
    cases k with
    | order => exact .empty
    | stockItem =>
      refine ⟨?_, fun _ _ _ _ hrows => by cases hrows⟩
      intro id row hrow
      cases (get?_twoBuyers hrow).2
      exact Tracked.isDetached_fresh _
  kept := by
    intro k id e he
    cases k with
    | order => cases he
    | stockItem =>
      obtain ⟨row, hrow, rfl⟩ := Option.map_eq_some_iff.mp he
      obtain ⟨rfl, rfl⟩ := get?_twoBuyers hrow
      exact ⟨rfl, rfl⟩

theorem takeSteps_reckoned_sideBySide :
    Ready 0 twoBuyers ∧ Discreet (Dispatcher.inProcess (handlers 0) : Dispatcher (Party Empty)
        (Premises (List (Call (Party Empty))))) ∧
      3 ≤ 3 ∧ shelved 0 twoBuyers .stockItem widget = some tenWidgets ∧
      ∃ j, shelved 0 (afterBoth 2 3).2 .stockItem widget = some j ∧
        Reckoned widget (afterBoth 2 3).1 tenWidgets j := by
  have h := takeSteps_reckoned ready_twoBuyers (handlers_discreet 0) (Nat.le_refl 3)
    (sideBySide 2 3)
  exact ⟨ready_twoBuyers, handlers_discreet 0, Nat.le_refl 3, rfl, h.2.2 widget tenWidgets rfl⟩

end Transactor.Shop
