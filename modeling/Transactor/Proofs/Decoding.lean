import Transactor.Proofs.Identifier
import Transactor.Proofs.Timestamp
import Transactor.Message.Codec

namespace Transactor.Json

/-- The fields of an object. -/
def fields : Json → List (String × Json)
  | .object fs => fs
  | _ => []

namespace Draft

variable {α : Type}

theorem asString_string (s : String) : asString (.string s) = .ok s := rfl

theorem asUuid_text (u : Uuid) : asUuid (.string u.text) = .ok u := by
  rw [asUuid, Uuid.read_text]
  rfl

theorem asInstant_text (t : Instant) : asInstant (.string t.text) = .ok t := by
  rw [asInstant, Instant.parse?_text]

theorem asWord_toNat (n : UInt32) : asWord (.int n.toNat) = .ok n := by
  have hlt : (n.toNat : Int) < UInt32.size := by
    have h := n.toNat_lt_size
    omega
  rw [asWord, if_pos ⟨Int.natCast_nonneg _, hlt⟩, Int.toNat_natCast, UInt32.ofNat_toNat]

theorem asOptional_optionJson (id : Option Uuid) :
    asOptional asUuid (Uuid.optionJson id).toDraft = .ok id := by
  cases id with
  | none => rfl
  | some u =>
    change (asUuid (.string u.text)).map some = _
    rw [asUuid_text]
    rfl

theorem asValue_toDraft (j : Json) : asValue j.toDraft = .ok j := by
  rw [asValue, value?_toDraft]

theorem asList_toDrafts {encode : α → Json} {decode : Draft → Decoded α}
    (h : ∀ a, decode (encode a).toDraft = .ok a) (as : List α) :
    asList decode (.array (toDrafts (as.map encode))) = .ok as := by
  rw [asList]
  induction as with
  | nil => rfl
  | cons a as ih =>
    rw [List.map_cons, toDrafts, List.mapM_cons, h, ih]
    rfl

/-- Each of some fields is found once, in any order and among any others. -/
def Once (fields : List (String × Json)) (found : List (String × Draft)) : Prop :=
  ∀ f ∈ fields, (found.filter fun g => g.1 == f.1) = [(f.1, f.2.toDraft)]

/-- The spellings of a record: an object with its fields, or the list of its parts. -/
inductive Spelled (fields : List (String × Json)) : Draft → Prop
  | object {found : List (String × Draft)} (h : Once fields found) : Spelled fields (.object found)
  | parts : Spelled fields (.array (toDrafts (fields.map Prod.snd)))

theorem toDraftFields_eq_map (fields : List (String × Json)) :
    toDraftFields fields = fields.map fun f => (f.1, f.2.toDraft) := by
  induction fields with
  | nil => rfl
  | cons f fields ih => rw [toDraftFields, ih, List.map_cons]

theorem filter_name_of_nodup {fields : List (String × Json)} (h : (fields.map Prod.fst).Nodup)
    {f : String × Json} (hf : f ∈ fields) : (fields.filter fun g => g.1 == f.1) = [f] := by
  induction fields with
  | nil => cases hf
  | cons g fields ih =>
    obtain ⟨hg, hnodup⟩ := List.nodup_cons.mp h
    rcases List.mem_cons.mp hf with rfl | hf
    · have hothers : (fields.filter fun g => g.1 == f.1) = [] := by
        refine List.filter_eq_nil_iff.mpr fun g hmem heq => hg ?_
        exact eq_of_beq heq ▸ List.mem_map_of_mem hmem
      rw [List.filter_cons, if_pos (beq_self_eq_true f.1), hothers]
    · have hne : ¬ (g.1 == f.1) = true := fun heq =>
        hg (eq_of_beq heq ▸ List.mem_map_of_mem hf)
      rw [List.filter_cons, if_neg hne, ih hnodup hf]

theorem Spelled.self {fields : List (String × Json)} (h : (fields.map Prod.fst).Nodup) :
    Spelled fields (Json.object fields).toDraft := by
  refine .object fun f hf => ?_
  rw [toDraftFields_eq_map, List.filter_map]
  change (fields.filter fun g => g.1 == f.1).map _ = _
  rw [filter_name_of_nodup h hf]
  rfl

theorem Once.field? {fields : List (String × Json)} {found : List (String × Draft)}
    {name : String} {j : Json} {decode : Draft → Decoded α} {a : α} (h : Once fields found)
    (i : Nat) (hi : fields[i]? = some (name, j)) (hdecode : decode j.toDraft = .ok a) :
    field? found name decode = .ok (some a) := by
  rw [Draft.field?, h (name, j) (List.mem_of_getElem? hi)]
  change (decode j.toDraft).map some = _
  rw [hdecode]
  rfl

theorem part_of_get {r : RecordShape} {items : List Draft} {i : Nat} {d : Draft}
    {decode : Draft → Decoded α} {a : α} (h : items[i]? = some d) (hdecode : decode d = .ok a) :
    part r items i decode = .ok a := by
  rw [part, h]
  exact hdecode

/-- A record is read from each of its spellings if it is read from its fields and from its parts. -/
theorem Spelled.asRecord {fields : List (String × Json)} {d : Draft} {r : RecordShape}
    {ofFields : List (String × Draft) → Decoded α} {ofParts : List Draft → Decoded α} {a : α}
    (h : Spelled fields d) (hfields : ∀ found, Once fields found → ofFields found = .ok a)
    (hparts : ofParts (toDrafts (fields.map Prod.snd)) = .ok a)
    (hsize : (toDrafts (fields.map Prod.snd)).length = r.size) :
    d.asRecord r ofFields ofParts = .ok a := by
  cases h with
  | object h => exact hfields _ h
  | parts =>
    rw [Draft.asRecord, hparts, noMore, if_pos (Nat.le_of_eq hsize)]
    rfl

end Draft

end Transactor.Json
