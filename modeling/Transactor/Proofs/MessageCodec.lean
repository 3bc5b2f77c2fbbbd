import Transactor.Proofs.Decoding

namespace Transactor

open Json Draft

theorem Lifecycle.name_mem_names (s : Lifecycle) : s.name ∈ names := List.mem_map_of_mem (mem_all s)

theorem Lifecycle.named_name (s : Lifecycle) : named s.name = .ok s := by
  rw [named, ofName?_name]

theorem Lifecycle.ofDraft_toJson (s : Lifecycle) : ofDraft s.toJson.toDraft = .ok s := by
  change asVariant names named _ (.string s.name) = _
  rw [asVariant, if_pos s.name_mem_names, named_name]

theorem Lifecycle.ofDraft_tagged (s : Lifecycle) : ofDraft (.object [(s.name, .null)]) = .ok s := by
  rw [ofDraft, asVariant, if_pos s.name_mem_names]
  exact named_name s

theorem TransactionId.ofDraft_toJson (t : TransactionId) : ofDraft t.toJson.toDraft = .ok t := by
  change (asUuid (.string t.uuid.text)).map mk = _
  rw [asUuid_text]
  rfl

theorem Metadata.ofDraft_spelled {m : Metadata} {d : Draft}
    (h : Spelled m.toJson.fields d) : ofDraft d = .ok m := by
  refine h.asRecord (fun found h => ?_) ?_ rfl
  · rw [ofFields, h.field? 2 rfl (asOptional_optionJson _),
      h.field? 3 rfl (asOptional_optionJson _), h.field? 0 rfl (asUuid_text _),
      h.field? 1 rfl (asString_string _), h.field? 4 rfl (asInstant_text _)]
    rfl
  · rw [ofParts, part_of_get rfl (asUuid_text _), part_of_get rfl (asString_string _),
      part_of_get rfl (asOptional_optionJson _), part_of_get rfl (asOptional_optionJson _),
      part_of_get rfl (asInstant_text _)]
    rfl

theorem Metadata.ofDraft_toJson (m : Metadata) : ofDraft m.toJson.toDraft = .ok m :=
  ofDraft_spelled (.self (of_decide_eq_true rfl))

theorem LifecycleChange.ofDraft_spelled {c : LifecycleChange} {d : Draft}
    (h : Spelled c.toJson.fields d) : ofDraft d = .ok c := by
  refine h.asRecord (fun found h => ?_) ?_ rfl
  · rw [ofFields, h.field? 0 rfl (asUuid_text _), h.field? 1 rfl (asString_string _),
      h.field? 2 rfl (Lifecycle.ofDraft_toJson _)]
    rfl
  · rw [ofParts, part_of_get rfl (asUuid_text _), part_of_get rfl (asString_string _),
      part_of_get rfl (Lifecycle.ofDraft_toJson _)]
    rfl

theorem LifecycleChange.ofDraft_toJson (c : LifecycleChange) : ofDraft c.toJson.toDraft = .ok c :=
  ofDraft_spelled (.self (of_decide_eq_true rfl))

theorem Payload.ofDraft_toJson (p : Payload) : ofDraft p.toJson.toDraft = .ok p := by
  cases p with
  | lifecycle c =>
    change (LifecycleChange.ofDraft c.toJson.toDraft).map lifecycle = _
    rw [LifecycleChange.ofDraft_toJson]
    rfl
  | domain body =>
    change (asValue body.toDraft).map domain = _
    rw [asValue_toDraft]
    rfl

theorem Message.ofDraft_spelled {m : Message} {d : Draft}
    (h : Spelled m.toJson.fields d) : ofDraft d = .ok m := by
  refine h.asRecord (fun found h => ?_) ?_ rfl
  · rw [ofFields, h.field? 0 rfl (Metadata.ofDraft_toJson _),
      h.field? 1 rfl (Payload.ofDraft_toJson _)]
    rfl
  · rw [ofParts, part_of_get rfl (Metadata.ofDraft_toJson _),
      part_of_get rfl (Payload.ofDraft_toJson _)]
    rfl

theorem Message.ofDraft_toJson (m : Message) : ofDraft m.toJson.toDraft = .ok m :=
  ofDraft_spelled (.self (of_decide_eq_true rfl))

end Transactor
