import ClusterCaps.Text.Bytes

set_option autoImplicit false

namespace ClusterCaps.Text

theorem bytes_append (first second : List Char) : bytes (first ++ second) = bytes first ++ bytes second :=
  List.flatMap_append

theorem bytes_cons (c : Char) (rest : List Char) : bytes (c :: rest) = String.utf8EncodeChar c ++ bytes rest := rfl

theorem cut_start (text : List Char) : cut? text 0 = some ([], text) := by
  cases text <;> rfl

theorem cut_between (before after : List Char) :
    cut? (before ++ after) (bytes before).length = some (before, after) := by
  induction before with
  | nil => exact cut_start after
  | cons c rest ih =>
      obtain ⟨size, whole⟩ : ∃ size, c.utf8Size = size + 1 := ⟨c.utf8Size - 1, by have := c.utf8Size_pos; omega⟩
      have offset : (bytes (c :: rest)).length = (size + (bytes rest).length) + 1 := by
        rw [bytes_cons, List.length_append, String.length_utf8EncodeChar, whole]
        omega
      have behind : size + (bytes rest).length + 1 - c.utf8Size = (bytes rest).length := by omega
      rw [List.cons_append, offset, cut?, if_pos (by omega), behind, ih, Option.map_some]

theorem slice_between (before part after : List Char) (start stop : Nat) (first : (bytes before).length = start)
    (last : (bytes (before ++ part)).length = stop) : slice? (before ++ part ++ after) start stop = some part := by
  rw [← first, ← last, slice?, cut_between (before ++ part) after]
  change ((cut? (before ++ part) (bytes before).length).bind fun cut => some cut.2) = some part
  rw [cut_between before part]
  rfl

-- Among the bytes of a character that is not ASCII there is none of ASCII.
theorem ascii_alone (c : Char) (byte : UInt8) (ascii : byte.toNat < 128) (member : byte ∈ String.utf8EncodeChar c) :
    String.utf8EncodeChar c = [byte] ∧ c.toNat = byte.toNat := by
  unfold String.utf8EncodeChar at member ⊢
  have code : c.val.toNat = c.toNat := rfl
  simp only [code] at member ⊢
  split at member
  · next small =>
      cases List.mem_singleton.mp member
      rw [if_pos small]
      refine ⟨rfl, ?_⟩
      rw [UInt8.toNat_ofNat_of_lt' (by show c.toNat < 256; omega)]
  · exfalso
    split at member
    · simp only [List.mem_cons, List.not_mem_nil, or_false] at member
      rcases member with rfl | rfl <;> simp at ascii <;> omega
    · split at member
      · simp only [List.mem_cons, List.not_mem_nil, or_false] at member
        rcases member with rfl | rfl | rfl <;> simp at ascii <;> omega
      · simp only [List.mem_cons, List.not_mem_nil, or_false] at member
        rcases member with rfl | rfl | rfl | rfl <;> simp at ascii <;> omega

theorem ascii_at (text : List Char) (offset : Nat) (byte : UInt8) (ascii : byte.toNat < 128)
    (there : (bytes text)[offset]? = some byte) :
    ∃ before c after, text = before ++ c :: after ∧ (bytes before).length = offset ∧ c.toNat = byte.toNat := by
  induction text generalizing offset with
  | nil => cases there
  | cons c rest ih =>
      rw [bytes_cons] at there
      by_cases own : offset < (String.utf8EncodeChar c).length
      · rw [List.getElem?_append_left own] at there
        obtain ⟨alone, code⟩ := ascii_alone c byte ascii (List.mem_of_getElem? there)
        rw [alone, List.length_singleton, Nat.lt_one_iff] at own
        exact ⟨[], c, rest, rfl, own.symm, code⟩
      · rw [List.getElem?_append_right (Nat.le_of_not_lt own)] at there
        obtain ⟨before, found, after, rfl, length, code⟩ := ih _ there
        refine ⟨c :: before, found, after, rfl, ?_, code⟩
        rw [bytes_cons, List.length_append, length]
        omega

theorem ascii_length (text : List Char) (ascii : ∀ c ∈ text, c.toNat < 128) : (bytes text).length = text.length := by
  induction text with
  | nil => rfl
  | cons c rest ih =>
      obtain ⟨small, later⟩ := List.forall_mem_cons.mp ascii
      have size : c.utf8Size = 1 := by
        rw [Char.utf8Size_eq_one_iff, UInt32.le_iff_toNat_le]
        exact Nat.le_of_lt_succ small
      rw [bytes_cons, List.length_append, String.length_utf8EncodeChar, size, ih later, List.length_cons, Nat.add_comm]

end ClusterCaps.Text
