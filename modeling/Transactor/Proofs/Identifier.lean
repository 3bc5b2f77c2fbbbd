import Mathlib.Algebra.Group.Nat.Defs
import Transactor.Uuid

namespace Transactor.Uuid

theorem hexDigit?_digitChar : ∀ d < 16, hexDigit? (Nat.digitChar d) = some d := by decide

theorem readHex_digits (n acc k : Nat) :
    readHex acc ((List.range k).map fun i => Nat.digitChar (n / 16 ^ (k - 1 - i) % 16)) =
      some (acc * 16 ^ k + n % 16 ^ k) := by
  induction k generalizing acc with
  | zero => simp [readHex, Nat.mod_one]
  | succ k ih =>
    have hrest : ((List.range k).map Nat.succ).map
        (fun i => Nat.digitChar (n / 16 ^ (k + 1 - 1 - i) % 16)) =
        (List.range k).map fun i => Nat.digitChar (n / 16 ^ (k - 1 - i) % 16) := by
      rw [List.map_map]
      apply List.map_congr_left
      intro i _
      have hi : k + 1 - 1 - (i + 1) = k - 1 - i := by omega
      simp only [Function.comp, Nat.succ_eq_add_one, hi]
    have hdigit := hexDigit?_digitChar (n / 16 ^ k % 16) (Nat.mod_lt _ (by decide))
    rw [List.range_succ_eq_map, List.map_cons, hrest, readHex]
    simp only [Nat.add_sub_cancel, Nat.sub_zero, hdigit, Option.bind_eq_bind, Option.bind_some]
    rw [ih, Nat.mod_pow_succ, Nat.add_mul, Nat.pow_succ, Nat.mul_comm (16 ^ k) 16, Nat.mul_assoc,
      Nat.mul_comm (n / 16 ^ k % 16), Nat.add_assoc, Nat.add_comm (16 ^ k * _)]

theorem length_digits (u : Uuid) : u.digits.length = 32 := by
  rw [digits, List.length_map, List.length_range]

theorem ofDigits?_digits (u : Uuid) : ofDigits? u.digits = some u := by
  rw [ofDigits?, if_pos (length_digits u)]
  have hread := readHex_digits u.toNat 0 32
  have hlt : u.toNat < 16 ^ 32 := u.bits.isLt
  rw [Nat.zero_mul, Nat.zero_add, Nat.mod_eq_of_lt hlt] at hread
  have hdigits : u.digits =
      (List.range 32).map fun i => Nat.digitChar (u.toNat / 16 ^ (32 - 1 - i) % 16) := rfl
  rw [hdigits, hread, Option.map_some, ofNat, toNat, BitVec.ofNat_toNat, BitVec.setWidth_eq]

theorem append_groups (ds : List Char) :
    ds.take 8 ++ (ds.drop 8).take 4 ++ (ds.drop 12).take 4 ++ (ds.drop 16).take 4 ++ ds.drop 20 =
      ds := by
  have h : ∀ n k, (ds.drop n).take k ++ ds.drop (n + k) = ds.drop n := by
    intro n k
    rw [← List.drop_drop, List.take_append_drop]
  rw [List.append_assoc, h 16 4, List.append_assoc, h 12 4, List.append_assoc, h 8 4,
    List.take_append_drop]

theorem groups_hyphenate {ds : List Char} (h : ds.length = 32) :
    (hyphenate ds).take 8 = ds.take 8 ∧ ((hyphenate ds).drop 9).take 4 = (ds.drop 8).take 4 ∧
      ((hyphenate ds).drop 14).take 4 = (ds.drop 12).take 4 ∧
      ((hyphenate ds).drop 19).take 4 = (ds.drop 16).take 4 ∧
      (hyphenate ds).drop 24 = ds.drop 20 := by
  simp [hyphenate, List.drop_append, List.drop_take, h]

theorem length_hyphenate {ds : List Char} (h : ds.length = 32) : (hyphenate ds).length = 36 := by
  simp [hyphenate, h]

theorem unhyphenate?_hyphenate {ds : List Char} (h : ds.length = 32) :
    unhyphenate? (hyphenate ds) = some ds := by
  obtain ⟨h₁, h₂, h₃, h₄, h₅⟩ := groups_hyphenate h
  simp only [unhyphenate?, h₁, h₂, h₃, h₄, h₅, append_groups, length_hyphenate h, and_self,
    ↓reduceIte]

theorem parse?_text (u : Uuid) : parse? u.text = some u := by
  rw [parse?, text, String.toList_ofList, ofChars?, length_hyphenate (length_digits u)]
  simp only [ofHyphenated?, unhyphenate?_hyphenate (length_digits u), Option.bind_some,
    ofDigits?_digits]

theorem read_text (u : Uuid) : Uuid.read u.text = .ok u := by
  rw [Uuid.read, parse?_text]

end Transactor.Uuid
