import Mathlib.Algebra.Group.Nat.Defs
import Mathlib.Data.List.Induction
import Transactor.Proofs.CascadeBound

namespace Transactor

namespace Text

/-- What is left of a text without the blanks around it. -/
def Trimmed (raw core : List Char) : Prop :=
  ∃ before after, raw = before ++ core ++ after ∧
    (∀ c ∈ before, isBlank c = true) ∧ (∀ c ∈ after, isBlank c = true) ∧
    (∀ c ∈ core.head?, isBlank c = false) ∧ (∀ c ∈ core.getLast?, isBlank c = false)

/-- A plus sign or none, and at least one digit, of a value. -/
def Numeral (s : List Char) (n : Nat) : Prop :=
  ∃ ds, (s = ds ∨ s = '+' :: ds) ∧ ds ≠ [] ∧ (∀ c ∈ ds, c.isDigit = true) ∧
    Nat.ofDigitChars 10 ds 0 = n

/-- A text without the plus sign that it may begin with. -/
def unsigned : List Char → List Char
  | '+' :: s => s
  | s => s

/-- Behind the sign, the digits up to some place, and the rest. What they are worth is allowed. -/
structure Scanned (max : Nat) (s ds rest : List Char) : Prop where
  split : unsigned s = ds ++ rest
  digit : ∀ c ∈ ds, c.isDigit = true
  le : Nat.ofDigitChars 10 ds 0 ≤ max

/-- Why a text is no numeral of at most `max`: the first thing from the left that is wrong. -/
inductive Flaw (max : Nat) (s : List Char) : String → Prop
  | empty (h : s = []) : Flaw max s "cannot parse integer from empty string"
  | loneSign (h : s = ['+']) : Flaw max s "invalid digit found in string"
  | noDigit {ds rest : List Char} {c : Char} (h : Scanned max s ds (c :: rest))
      (hc : c.isDigit = false) : Flaw max s "invalid digit found in string"
  | excess {ds rest : List Char} {c : Char} (h : Scanned max s ds (c :: rest))
      (hc : c.isDigit = true) (hlt : max < Nat.ofDigitChars 10 (ds ++ [c]) 0) :
      Flaw max s "number too large to fit in target type"

theorem trimStart_split (s : List Char) :
    ∃ before, s = before ++ trimStart s ∧ (∀ c ∈ before, isBlank c = true) ∧
      ∀ c ∈ (trimStart s).head?, isBlank c = false := by
  induction s with
  | nil => exact ⟨[], rfl, by simp, by simp [trimStart]⟩
  | cons c s ih =>
    cases hc : isBlank c with
    | false =>
      rw [trimStart_cons_of_not_blank hc]
      refine ⟨[], rfl, by simp, ?_⟩
      rintro d ⟨⟩
      exact hc
    | true =>
      obtain ⟨before, hs, hbefore, hhead⟩ := ih
      have htrim : trimStart (c :: s) = trimStart s :=
        trimStart_append_of_blank (s := [c]) (by simpa using hc)
      rw [htrim]
      refine ⟨c :: before, by rw [List.cons_append, ← hs], ?_, hhead⟩
      intro d hd
      rcases List.mem_cons.mp hd with rfl | hd
      · exact hc
      · exact hbefore d hd

theorem trimStart_of_head {s : List Char} (h : ∀ c ∈ s.head?, isBlank c = false) :
    trimStart s = s := by
  cases s with
  | nil => rfl
  | cons c s => exact trimStart_cons_of_not_blank (h c rfl)

/-- Trimming takes the blanks away at both ends, and that is the only way to do it. -/
theorem trimmed_iff {raw core : List Char} : Trimmed raw core ↔ core = trim raw := by
  constructor
  · rintro ⟨before, after, rfl, hbefore, hafter, hhead, hlast⟩
    have hstart : trimStart (before ++ core ++ after) = trimStart (core ++ after) := by
      rw [List.append_assoc, trimStart_append_of_blank hbefore]
    rw [trim, hstart]
    cases core with
    | nil =>
      have hblank : trimStart (after ++ []) = [] := trimStart_append_of_blank hafter
      rw [List.append_nil] at hblank
      rw [List.nil_append, hblank]
      rfl
    | cons c core =>
      have hend : trimStart (c :: core).reverse = (c :: core).reverse := by
        apply trimStart_of_head
        rwa [List.head?_reverse]
      have hrest : ∀ d ∈ after.reverse, isBlank d = true :=
        fun d hd => hafter d (List.mem_reverse.mp hd)
      rw [List.cons_append, trimStart_cons_of_not_blank (hhead c rfl), ← List.cons_append,
        List.reverse_append, trimStart_append_of_blank hrest, hend, List.reverse_reverse]
  · rintro rfl
    obtain ⟨before, hraw, hbefore, hhead⟩ := trimStart_split raw
    obtain ⟨after, hmid, hafter, hlast⟩ := trimStart_split (trimStart raw).reverse
    have hcore : trimStart raw = trim raw ++ after.reverse := by
      rw [trim, ← List.reverse_append, ← hmid, List.reverse_reverse]
    refine ⟨before, after.reverse, ?_, hbefore, ?_, ?_, ?_⟩
    · rw [List.append_assoc, ← hcore, ← hraw]
    · exact fun c hc => hafter c (List.mem_reverse.mp hc)
    · intro c hc
      apply hhead c
      rw [hcore, List.head?_append, Option.mem_def.mp hc]
      rfl
    · intro c hc
      rw [trim, List.getLast?_reverse] at hc
      exact hlast c hc

theorem digit?_of_isDigit {c : Char} (h : c.isDigit = true) :
    digit? c = some (c.toNat - '0'.toNat) := by
  rw [Char.isDigit, Bool.and_eq_true, decide_eq_true_eq, decide_eq_true_eq] at h
  exact if_pos h

theorem digit?_of_not_isDigit {c : Char} (h : c.isDigit = false) : digit? c = none := by
  apply if_neg
  intro hc
  rw [Char.isDigit, Bool.and_eq_false_iff, decide_eq_false_iff_not, decide_eq_false_iff_not] at h
  rcases h with h | h
  · exact h hc.1
  · exact h hc.2

theorem le_ofDigitChars (ds : List Char) (acc : Nat) : acc ≤ Nat.ofDigitChars 10 ds acc := by
  rw [Nat.ofDigitChars_eq_ofDigitChars_zero]
  have hpow : 0 < 10 ^ ds.length := Nat.pow_pos (by decide)
  calc acc ≤ 10 ^ ds.length * acc := Nat.le_mul_of_pos_left acc hpow
    _ ≤ _ := Nat.le_add_right _ _

/-- Digits whose value is allowed are all read, since each of their beginnings is worth less. -/
theorem readDigits_append {max : Nat} {ds : List Char} (hds : ∀ c ∈ ds, c.isDigit = true)
    {acc : Nat} (hle : Nat.ofDigitChars 10 ds acc ≤ max) (rest : List Char) :
    readDigits max acc (ds ++ rest) = readDigits max (Nat.ofDigitChars 10 ds acc) rest := by
  induction ds generalizing acc with
  | nil => rfl
  | cons c ds ih =>
    have hd := digit?_of_isDigit (hds c List.mem_cons_self)
    rw [Nat.ofDigitChars_cons, Nat.mul_comm] at hle ⊢
    have hacc := Nat.le_trans (le_ofDigitChars ds _) hle
    simp only [List.cons_append, readDigits, hd, if_pos hacc]
    exact ih (fun c hc => hds c (List.mem_cons_of_mem _ hc)) hle

theorem readDigits_digits {max : Nat} {ds : List Char} (hds : ∀ c ∈ ds, c.isDigit = true)
    (hle : Nat.ofDigitChars 10 ds 0 ≤ max) :
    readDigits max 0 ds = .ok (Nat.ofDigitChars 10 ds 0) := by
  have hread := readDigits_append hds hle []
  rwa [List.append_nil] at hread

theorem readDigits_noDigit {max : Nat} {ds rest : List Char} {c : Char}
    (hds : ∀ c ∈ ds, c.isDigit = true) (hle : Nat.ofDigitChars 10 ds 0 ≤ max)
    (hc : c.isDigit = false) : readDigits max 0 (ds ++ c :: rest) = .error .invalidDigit := by
  rw [readDigits_append hds hle]
  simp only [readDigits, digit?_of_not_isDigit hc]

theorem readDigits_excess {max : Nat} {ds rest : List Char} {c : Char}
    (hds : ∀ c ∈ ds, c.isDigit = true) (hle : Nat.ofDigitChars 10 ds 0 ≤ max)
    (hc : c.isDigit = true) (hlt : max < Nat.ofDigitChars 10 (ds ++ [c]) 0) :
    readDigits max 0 (ds ++ c :: rest) = .error .tooLarge := by
  rw [Nat.ofDigitChars_append, Nat.ofDigitChars_cons, Nat.ofDigitChars_nil, Nat.mul_comm] at hlt
  rw [readDigits_append hds hle]
  simp only [readDigits, digit?_of_isDigit hc, if_neg (Nat.not_le.mpr hlt)]

/-- How far the digits of a text go without an excess: to its end, to a character that is none, or
to one that is a digit too many. -/
theorem digits_cases (max : Nat) (s : List Char) :
    ((∀ c ∈ s, c.isDigit = true) ∧ Nat.ofDigitChars 10 s 0 ≤ max) ∨
      ∃ ds c rest, s = ds ++ c :: rest ∧ (∀ c ∈ ds, c.isDigit = true) ∧
        Nat.ofDigitChars 10 ds 0 ≤ max ∧
        (c.isDigit = false ∨ c.isDigit = true ∧ max < Nat.ofDigitChars 10 (ds ++ [c]) 0) := by
  induction s using List.reverseRecOn with
  | nil => exact .inl ⟨by simp, Nat.zero_le max⟩
  | append_singleton s c ih =>
    rcases ih with ⟨hs, hle⟩ | ⟨ds, d, rest, rfl, hds, hle, hd⟩
    · cases hc : c.isDigit with
      | false => exact .inr ⟨s, c, [], rfl, hs, hle, .inl hc⟩
      | true =>
        by_cases hlt : max < Nat.ofDigitChars 10 (s ++ [c]) 0
        · exact .inr ⟨s, c, [], rfl, hs, hle, .inr ⟨hc, hlt⟩⟩
        · refine .inl ⟨?_, Nat.not_lt.mp hlt⟩
          intro d hd
          rcases List.mem_append.mp hd with hd | hd
          · exact hs d hd
          · rw [List.mem_singleton.mp hd]
            exact hc
    · exact .inr ⟨ds, d, rest ++ [c], by simp, hds, hle, hd⟩

theorem readNumeral_unsigned {max : Nat} {s : List Char} (hs : s ≠ []) (hsign : s ≠ ['+']) :
    readNumeral max s = readDigits max 0 (unsigned s) := by
  unfold readNumeral unsigned
  grind

theorem unsigned_digits {s ds : List Char} (hs : s = ds ∨ s = '+' :: ds) (hnil : ds ≠ [])
    (hds : ∀ c ∈ ds, c.isDigit = true) : s ≠ [] ∧ s ≠ ['+'] ∧ unsigned s = ds := by
  cases ds with
  | nil => exact absurd rfl hnil
  | cons d ds =>
    have hd : d ≠ '+' := by
      rintro rfl
      exact absurd (hds '+' List.mem_cons_self) (by decide)
    rcases hs with rfl | rfl
    · unfold unsigned
      grind
    · exact ⟨by simp, by simp, rfl⟩

theorem eq_unsigned (s : List Char) : s = unsigned s ∨ s = '+' :: unsigned s := by
  unfold unsigned
  grind

theorem readNumeral_of_numeral {max n : Nat} {s : List Char} (h : Numeral s n) (hn : n ≤ max) :
    readNumeral max s = .ok n := by
  obtain ⟨ds, hs, hnil, hds, rfl⟩ := h
  obtain ⟨hempty, hsign, hbody⟩ := unsigned_digits hs hnil hds
  rw [readNumeral_unsigned hempty hsign, hbody, readDigits_digits hds hn]

theorem readNumeral_of_flaw {max : Nat} {s : List Char} {reason : String} (h : Flaw max s reason) :
    ∃ e, readNumeral max s = .error e ∧ e.message = reason := by
  -- a text that is scanned up to some character is more than a sign
  have hbody {c : Char} {ds rest : List Char} (h : Scanned max s ds (c :: rest)) :
      readNumeral max s = readDigits max 0 (ds ++ c :: rest) := by
    rw [← h.split]
    apply readNumeral_unsigned
    · rintro rfl
      exact absurd h.split.symm (by simp [unsigned])
    · rintro rfl
      exact absurd h.split.symm (by simp [unsigned])
  cases h with
  | empty h =>
    rw [h]
    exact ⟨.empty, rfl, rfl⟩
  | loneSign h =>
    rw [h]
    exact ⟨.invalidDigit, rfl, rfl⟩
  | noDigit h hc => exact ⟨.invalidDigit, by rw [hbody h, readDigits_noDigit h.digit h.le hc], rfl⟩
  | excess h hc hlt =>
    exact ⟨.tooLarge, by rw [hbody h, readDigits_excess h.digit h.le hc hlt], rfl⟩

/-- Every text is a numeral that is allowed, or has a flaw. -/
theorem numeral_or_flaw (max : Nat) (s : List Char) :
    (∃ n, Numeral s n ∧ n ≤ max) ∨ ∃ reason, Flaw max s reason := by
  by_cases hempty : s = []
  · exact .inr ⟨_, .empty hempty⟩
  by_cases hsign : s = ['+']
  · exact .inr ⟨_, .loneSign hsign⟩
  rcases digits_cases max (unsigned s) with ⟨hds, hle⟩ | ⟨ds, c, rest, hs, hds, hle, hc | ⟨hc, hlt⟩⟩
  · have hnil : unsigned s ≠ [] := by
      intro hnil
      rcases eq_unsigned s with h | h
      · exact hempty (h.trans hnil)
      · exact hsign (by rw [h, hnil])
    exact .inl ⟨_, ⟨unsigned s, eq_unsigned s, hnil, hds, rfl⟩, hle⟩
  · exact .inr ⟨_, .noDigit ⟨hs, hds, hle⟩ hc⟩
  · exact .inr ⟨_, .excess ⟨hs, hds, hle⟩ hc hlt⟩

end Text

namespace Settings

open Text

/-- Why a text is no bound of a drain. -/
inductive Fault (s : List Char) : String → Prop
  | zero (h : Numeral s 0) : Fault s "must allow at least one cycle"
  | flaw {reason : String} (h : Flaw (2 ^ 64 - 1) s reason) : Fault s reason

theorem readBound_of_numeral {raw : String} {n : Nat} (h : Numeral (trim raw.toList) n)
    (hn : n ≤ 2 ^ 64 - 1) : readBound raw = if n = 0 then .error .zero else .ok n := by
  have hread : readNumeral maxWord (trim raw.toList) = .ok n := readNumeral_of_numeral h hn
  cases n with
  | zero => simp only [readBound, hread, ↓reduceIte]
  | succ n => simp only [readBound, hread, Nat.add_one_ne_zero, ↓reduceIte]

theorem readBound_of_fault {raw reason : String} (h : Fault (trim raw.toList) reason) :
    ∃ e, readBound raw = .error e ∧ e.reason = reason := by
  cases h with
  | zero h => exact ⟨.zero, readBound_of_numeral h (Nat.zero_le _), rfl⟩
  | flaw h =>
    obtain ⟨e, hread, hreason⟩ := readNumeral_of_flaw h
    have hread : readNumeral maxWord (trim raw.toList) = .error e := hread
    exact ⟨.numeral e, by simp only [readBound, hread], hreason⟩

theorem bound_or_fault (s : List Char) :
    (∃ n, Numeral s n ∧ 1 ≤ n ∧ n ≤ 2 ^ 64 - 1) ∨ ∃ reason, Fault s reason := by
  rcases numeral_or_flaw (2 ^ 64 - 1) s with ⟨n, hn, hle⟩ | ⟨reason, h⟩
  · cases n with
    | zero => exact .inr ⟨_, .zero hn⟩
    | succ n => exact .inl ⟨n + 1, hn, Nat.le_add_left 1 n, hle⟩
  · exact .inr ⟨reason, .flaw h⟩

end Settings

namespace Host

variable {P S : Type}

/-- The drain of a unit begins with its whole queue: how that goes decides how the drain goes, until
it leaves something. -/
structure HandsOver (h : Host P S) (u : UnitRef) (w : World P S) : Prop where
  failed : ∀ e v, h.dispatch (w.unit u).queue u
      (handing u (w.unit u).transaction (draining u w) 0) = (.failed e, v) →
    ∃ m, h.drain u w = (.failed (.dispatch (w.unit u).transaction e), m)
  done : ∀ v, h.dispatch (w.unit u).queue u
      (handing u (w.unit u).transaction (draining u w) 0) = (.done (), v) →
    (v.unit u).queue = [] → ∃ m, h.drain u w = (.done (), m)

theorem handsOver (h : Host P S) {u : UnitRef} {w : World P S}
    (ha : (w.unit u).status = .active) (hq : (w.unit u).queue ≠ []) : h.HandsOver u w := by
  have hqueue : ((draining u w).unit u).queue = (w.unit u).queue := by
    rw [draining, World.unit_setUnit_self]
  -- the bound of a unit is never zero
  obtain ⟨left, hleft⟩ := Nat.exists_eq_add_one.mpr (w.unit u).limit_pos
  rw [← hqueue] at hq
  constructor
  · intro e v hd
    rw [← hqueue] at hd
    have hcycles : h.drainCycles u (w.unit u).transaction (w.unit u).limit (left + 1) 0
        (draining u w) = _ := drainCycles_failed h u _ _ hq hd
    rw [← hleft] at hcycles
    exact ⟨_, drain_active h u (r := .error _) ha hcycles⟩
  · intro v hd hv
    rw [← hqueue] at hd
    have hcycles : h.drainCycles u (w.unit u).transaction (w.unit u).limit (left + 1) 0
        (draining u w) = _ :=
      (drainCycles_ok h u _ _ hq hd).trans (drainCycles_empty h u _ _ hv)
    rw [← hleft] at hcycles
    exact ⟨_, drain_active h u (r := .ok ()) ha hcycles⟩

end Host

open Text

/-- The bound is read from exactly the texts that are, between blanks, a plus sign or none and
decimal digits of a value that is not zero and has 64 bits. Any other text is refused as it stands,
with the first reason from the left. And whatever the settings are, a unit that has been begun
under them hands over its first batch. -/
theorem ofLookup_grammar {lookup : String → Option String} {raw : String}
    (hraw : lookup "UNITWORK_MAX_CASCADE_CYCLES" = some raw) :
    (∃ core, (∀ s, Trimmed raw.toList s ↔ s = core) ∧
      (∀ n, Settings.ofLookup lookup = .ok ⟨n⟩ ↔ Numeral core n ∧ 1 ≤ n ∧ n ≤ 2 ^ 64 - 1) ∧
      ∀ e, Settings.ofLookup lookup = .error e ↔
        e.key = "UNITWORK_MAX_CASCADE_CYCLES" ∧ e.value = raw ∧ Settings.Fault core e.reason) ∧
    ∀ (P S : Type) (settings : Settings) (t : TransactionId) (h : Host P S) (u : UnitRef)
      (w : World P S), (w.unit u).Undrained t settings → (w.unit u).queue ≠ [] →
        h.HandsOver u w := by
  have hok {n : Nat} (hn : Numeral (trim raw.toList) n) (hpos : 1 ≤ n) (hle : n ≤ 2 ^ 64 - 1) :
      Settings.ofLookup lookup = .ok ⟨n⟩ := by
    have hread := Settings.readBound_of_numeral hn hle
    rw [if_neg (Nat.ne_of_gt hpos)] at hread
    simp only [Settings.ofLookup, Settings.cyclesKey, hraw, hread]
  have herror {reason : String} (hf : Settings.Fault (trim raw.toList) reason) :
      Settings.ofLookup lookup = .error ⟨Settings.cyclesKey, raw, reason⟩ := by
    obtain ⟨e, hread, rfl⟩ := Settings.readBound_of_fault hf
    simp only [Settings.ofLookup, Settings.cyclesKey, hraw, hread]
  refine ⟨⟨trim raw.toList, fun s => trimmed_iff, ?_, ?_⟩, ?_⟩
  · intro n
    refine ⟨fun h => ?_, fun ⟨hn, hpos, hle⟩ => hok hn hpos hle⟩
    rcases Settings.bound_or_fault (trim raw.toList) with ⟨m, hm, hpos, hle⟩ | ⟨reason, hf⟩
    · rw [hok hm hpos hle] at h
      cases h
      exact ⟨hm, hpos, hle⟩
    · rw [herror hf] at h
      cases h
  · intro e
    refine ⟨fun h => ?_, ?_⟩
    · rcases Settings.bound_or_fault (trim raw.toList) with ⟨m, hm, hpos, hle⟩ | ⟨reason, hf⟩
      · rw [hok hm hpos hle] at h
        cases h
      · rw [herror hf] at h
        cases h
        exact ⟨rfl, rfl, hf⟩
    · obtain ⟨key, value, reason⟩ := e
      rintro ⟨rfl, rfl, hf⟩
      exact herror hf
  · intro P S settings t h u w hx hq
    exact h.handsOver hx.fixed.2.2 hq

/-- A bound of 128 between blanks; and a unit that has been begun with a bound of zero. -/
theorem ofLookup_grammar_blanks :
    let raw := "\t+0128\u3000"
    let lookup : String → Option String := fun _ => some raw
    let x : UnitOfWork Nat := (UnitOfWork.begin ⟨.ofNat 0⟩ ⟨0⟩).add (.message notice)
    let w : World Nat (List (Occurrence Nat)) := (World.first ⟨0⟩ []).setUnit ⟨0⟩ x
    lookup "UNITWORK_MAX_CASCADE_CYCLES" = some raw ∧ Trimmed raw.toList "+0128".toList ∧
      Numeral "+0128".toList 128 ∧ Settings.ofLookup lookup = .ok ⟨128⟩ ∧
      (w.unit ⟨0⟩).Undrained ⟨.ofNat 0⟩ ⟨0⟩ ∧ (w.unit ⟨0⟩).queue ≠ [] ∧
      ∀ h : Host Nat (List (Occurrence Nat)), h.HandsOver ⟨0⟩ w := by
  intro raw lookup x w
  have hraw : lookup "UNITWORK_MAX_CASCADE_CYCLES" = some raw := rfl
  obtain ⟨⟨core, hcore, hok, -⟩, hfirst⟩ := ofLookup_grammar hraw
  have htrimmed : Trimmed raw.toList "+0128".toList :=
    ⟨['\t'], ['\u3000'], by decide, List.forall_mem_singleton.mpr (by decide),
      List.forall_mem_singleton.mpr (by decide), by rintro c ⟨⟩; decide, by rintro c ⟨⟩; decide⟩
  have hdigits : ∀ c ∈ "0128".toList, c.isDigit = true := List.all_eq_true.mp (by decide)
  have hnumeral : Numeral "+0128".toList 128 :=
    ⟨"0128".toList, .inr (by decide), by decide, hdigits, by decide⟩
  obtain rfl := (hcore _).mp htrimmed
  have hx : (w.unit ⟨0⟩).Undrained ⟨.ofNat 0⟩ ⟨0⟩ := by
    rw [World.unit_setUnit_self]
    exact .register (r := .message notice) .begin rfl
  have hq : (w.unit ⟨0⟩).queue ≠ [] := List.cons_ne_nil _ _
  exact ⟨hraw, htrimmed, hnumeral, (hok 128).mpr ⟨hnumeral, by decide, by decide⟩, hx, hq,
    fun h => hfirst _ _ _ _ h _ _ hx hq⟩

/-- At the place where the value would be too great, a character that is no digit counts first. -/
example : Settings.ofLookup (fun _ => some "1844674407370955162x") =
    .error ⟨Settings.cyclesKey, "1844674407370955162x", "invalid digit found in string"⟩ := by
  decide

end Transactor
