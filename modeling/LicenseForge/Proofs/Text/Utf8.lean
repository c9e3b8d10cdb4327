import LicenseForge.Text.Basic

/-!
# Bytes below 128

In UTF-8 a byte below 128 stands for the character with its number, and for no part of another one.

* `Text.mem_of_byte_mem_encode` : such a byte in the form of a text is one of its characters.
* `Text.encode_eq_map` : a text of such characters has one byte for each.
* `Text.length_le_length_encode` : any text has at least as many bytes as characters.
-/

namespace LicenseForge.Text

theorem toNat_eq_of_mem_utf8EncodeChar {c : Char} {b : UInt8} (hb : b.toNat < 128)
    (h : b ∈ String.utf8EncodeChar c) : c.toNat = b.toNat := by
  have hc : c.toNat = c.val.toNat := rfl
  have hbyte (n : Nat) : (UInt8.ofNat n).toNat = n % 2 ^ 8 := UInt8.toNat_ofNat'
  dsimp only [String.utf8EncodeChar] at h
  split at h
  next hv =>
    have := hbyte c.val.toNat
    rw [List.mem_singleton.1 h]
    omega
  next =>
    -- where there is more than one byte, none of them is below 128
    split at h
    · simp only [List.mem_cons, List.not_mem_nil, or_false] at h
      rcases h with rfl | rfl <;> rw [hbyte] at hb <;> omega
    · split at h
      · simp only [List.mem_cons, List.not_mem_nil, or_false] at h
        rcases h with rfl | rfl | rfl <;> rw [hbyte] at hb <;> omega
      · simp only [List.mem_cons, List.not_mem_nil, or_false] at h
        rcases h with rfl | rfl | rfl | rfl <;> rw [hbyte] at hb <;> omega

theorem mem_of_byte_mem_encode {c : Char} {b : UInt8} {t : Text} (hb : b.toNat < 128)
    (hc : c.toNat = b.toNat) (h : b ∈ t.encode) : c ∈ t := by
  obtain ⟨d, hd, hm⟩ := List.mem_flatMap.1 h
  have he : d.toNat = c.toNat := (toNat_eq_of_mem_utf8EncodeChar hb hm).trans hc.symm
  exact Char.toNat_inj.1 he ▸ hd

/-- A text of characters below 128 has a byte for each of them. -/
theorem encode_eq_map {t : Text} (h : ∀ c ∈ t, c.toNat < 128) :
    t.encode = t.map fun c => UInt8.ofNat c.toNat := by
  induction t with
  | nil => rfl
  | cons c t ih =>
    obtain ⟨hc, ht⟩ := List.forall_mem_cons.1 h
    have hv : c.val.toNat ≤ 127 := Nat.le_of_lt_succ hc
    rw [encode_cons, ih ht, List.map_cons, String.utf8EncodeChar]
    simp only [hv, if_true]
    rfl

theorem exists_byte_mem_encode {c : Char} {t : Text} (h : c ∈ t) :
    ∃ b ∈ t.encode, b ∈ String.utf8EncodeChar c := by
  obtain ⟨b, hb⟩ := List.exists_mem_of_ne_nil _ (List.ne_nil_of_length_pos
    (by rw [String.length_utf8EncodeChar]; exact c.utf8Size_pos))
  exact ⟨b, List.mem_flatMap.2 ⟨c, h, hb⟩, hb⟩

/-- A text has at least one byte for each of its characters. -/
theorem length_le_length_encode (t : Text) : t.length ≤ t.encode.length := by
  induction t with
  | nil => exact Nat.le_refl 0
  | cons c t ih =>
    have hc := c.utf8Size_pos
    rw [encode_cons, List.length_append, String.length_utf8EncodeChar, List.length_cons]
    omega

theorem encode_ne_nil {t : Text} (h : t ≠ []) : t.encode ≠ [] := fun he =>
  h (encode_injective (t := []) he)

end LicenseForge.Text
