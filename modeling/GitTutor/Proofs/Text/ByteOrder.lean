import GitTutor.Table
import Mathlib.Tactic.Common

/-!
The order of texts is that of their bytes.

UTF-8 keeps the order of characters. The first byte tells how many follow, and a character that
needs more of them is greater; among those of one length the bytes are digits of the number. So the
bytes of two characters differ before those of either end, and whatever follows does not matter.
-/

namespace GitTutor.Text

open String (utf8EncodeChar)

/-- The bytes of a text in UTF-8. -/
def bytes (text : String) : List UInt8 := text.toUTF8.data.toList

lemma bytes_eq (text : String) : bytes text = text.toList.flatMap utf8EncodeChar := by
  obtain ⟨cs, rfl⟩ : ∃ cs, text = String.ofList cs := ⟨_, String.ofList_toList.symm⟩
  rw [bytes, String.toUTF8_eq_toByteArray, String.toByteArray_ofList, List.utf8Encode,
    List.data_toByteArray, String.toList_ofList]

lemma byte_cons_lt {a b : Nat} (ha : a < 256) (hb : b < 256) {s t : List UInt8} :
    UInt8.ofNat a :: s < UInt8.ofNat b :: t ↔ a < b ∨ a = b ∧ s < t := by
  rw [List.cons_lt_cons_iff, UInt8.lt_iff_toNat_lt, ← UInt8.toNat_inj, UInt8.toNat_ofNat',
    UInt8.toNat_ofNat', Nat.mod_eq_of_lt (by omega), Nat.mod_eq_of_lt (by omega)]

lemma four_bytes_lt {m n : Nat} (h : m < n) (bound : n < 2097152) (s t : List UInt8) :
    UInt8.ofNat (m / 262144 % 8 + 240) :: UInt8.ofNat (m / 4096 % 64 + 128) ::
        UInt8.ofNat (m / 64 % 64 + 128) :: UInt8.ofNat (m % 64 + 128) :: s <
      UInt8.ofNat (n / 262144 % 8 + 240) :: UInt8.ofNat (n / 4096 % 64 + 128) ::
        UInt8.ofNat (n / 64 % 64 + 128) :: UInt8.ofNat (n % 64 + 128) :: t := by
  have lead (k : Nat) : k % 8 + 240 < 256 := by omega
  have digit (k : Nat) : k % 64 + 128 < 256 := by omega
  rw [byte_cons_lt (lead _) (lead _), byte_cons_lt (digit _) (digit _),
    byte_cons_lt (digit _) (digit _), byte_cons_lt (digit _) (digit _)]
  rcases Nat.lt_or_ge (m / 262144) (n / 262144) with first | first
  · exact .inl (by omega)
  refine .inr ⟨by omega, ?_⟩
  rcases Nat.lt_or_ge (m / 4096) (n / 4096) with second | second
  · exact .inl (by omega)
  refine .inr ⟨by omega, ?_⟩
  rcases Nat.lt_or_ge (m / 64) (n / 64) with third | third
  · exact .inl (by omega)
  exact .inr ⟨by omega, .inl (by omega)⟩

lemma utf8EncodeChar_append_lt {c d : Char} (h : c < d) (s t : List UInt8) :
    utf8EncodeChar c ++ s < utf8EncodeChar d ++ t := by
  have hlt : c.val.toNat < d.val.toNat := h
  have bound : d.val.toNat < 2097152 := by
    rcases d.valid with hd | ⟨-, hd⟩ <;> omega
  unfold utf8EncodeChar
  simp only
  generalize c.val.toNat = m at *
  generalize d.val.toNat = n at *
  by_cases long : m ≤ 65535
  · -- The second character has more bytes, which its first one tells, or both have at most three.
    split_ifs
    all_goals
      simp only [List.cons_append, List.nil_append, List.cons_lt_cons_iff, UInt8.lt_iff_toNat_lt,
        ← UInt8.toNat_inj, UInt8.toNat_ofNat']
      omega
  · rw [if_neg (by omega), if_neg (by omega), if_neg long, if_neg (by omega), if_neg (by omega),
      if_neg (by omega)]
    exact four_bytes_lt hlt bound s t

lemma utf8EncodeChar_ne_nil (c : Char) : utf8EncodeChar c ≠ [] :=
  List.ne_nil_of_length_pos (by rw [String.length_utf8EncodeChar]; exact c.utf8Size_pos)

/-- **A lesser text has lesser bytes.** -/
lemma bytes_lt {a b : String} (h : a < b) : bytes a < bytes b := by
  rw [String.lt_iff] at h
  rw [bytes_eq, bytes_eq]
  generalize a.toList = cs at h
  generalize b.toList = ds at h
  induction cs generalizing ds with
  | nil =>
    cases ds with
    | nil => exact absurd h (List.lt_irrefl _)
    | cons d ds =>
      obtain ⟨byte, rest, hd⟩ := List.exists_cons_of_ne_nil (utf8EncodeChar_ne_nil d)
      rw [List.flatMap_nil, List.flatMap_cons, hd, List.cons_append]
      exact List.nil_lt_cons _ _
  | cons c cs ih =>
    cases ds with
    | nil => exact absurd h (List.not_lt_nil _)
    | cons d ds =>
      rw [List.flatMap_cons, List.flatMap_cons]
      rcases List.cons_lt_cons_iff.1 h with first | ⟨rfl, rest⟩
      · exact utf8EncodeChar_append_lt first _ _
      · exact List.append_left_lt (ih _ rest)

end GitTutor.Text
