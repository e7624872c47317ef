import Mathlib.Tactic.SplitIfs

namespace OptionalContainers.Text

def bytes (s : String) : List UInt8 :=
  s.toUTF8.data.toList

theorem bytes_eq_flatMap (s : String) : bytes s = s.toList.flatMap String.utf8EncodeChar := by
  rw [bytes, String.toUTF8_eq_toByteArray, ← String.utf8Encode_toList, List.utf8Encode,
    List.data_toByteArray]

theorem ofNat_cons_lt_iff {m n : Nat} (hm : m < 256) (hn : n < 256) (r s : List UInt8) :
    UInt8.ofNat m :: r < UInt8.ofNat n :: s ↔ m < n ∨ m = n ∧ r < s := by
  rw [List.cons_lt_cons_iff, UInt8.lt_iff_toNat_lt, ← UInt8.toNat_inj,
    UInt8.toNat_ofNat_of_lt' hm, UInt8.toNat_ofNat_of_lt' hn]

theorem last_digit_cases {m n : Nat} (h : m < n) :
    m / 64 < n / 64 ∨ m / 64 = n / 64 ∧ m % 64 < n % 64 := by
  omega

theorem digits_lt {m n : Nat} (h : m < n) :
    m / 262144 < n / 262144 ∨ m / 262144 = n / 262144 ∧
      (m / 4096 % 64 < n / 4096 % 64 ∨ m / 4096 % 64 = n / 4096 % 64 ∧
        (m / 64 % 64 < n / 64 % 64 ∨ m / 64 % 64 = n / 64 % 64 ∧ m % 64 < n % 64)) := by
  have hdiv : ∀ k : Nat, k / 64 / 64 = k / 4096 ∧ k / 4096 / 64 = k / 262144 := by
    intro k
    simp only [Nat.div_div_eq_div_mul, Nat.reduceMul, and_self]
  obtain ⟨hm, hm'⟩ := hdiv m
  obtain ⟨hn, hn'⟩ := hdiv n
  rcases last_digit_cases h with hrest | hlast
  · rcases last_digit_cases hrest with hrest | hthird
    · rw [hm, hn] at hrest
      rcases last_digit_cases hrest with hfirst | hsecond
      · exact .inl (hm' ▸ hn' ▸ hfirst)
      · omega
    · omega
  · omega

-- The first byte of a longer form is the greater one, and two of one form differ in a digit.
theorem encode_append_lt {c d : Char} (h : c < d) (r s : List UInt8) :
    String.utf8EncodeChar c ++ r < String.utf8EncodeChar d ++ s := by
  have hlt : c.val.toNat < d.val.toNat := h
  have hbound : d.val.toNat < 0x110000 := by
    rcases d.valid with hd | hd <;> omega
  have hdigits := digits_lt hlt
  simp only [String.utf8EncodeChar]
  generalize c.val.toNat = m at *
  generalize d.val.toNat = n at *
  have hfirst : ∀ k, k ≤ n → k / 262144 % 8 = k / 262144 := by
    intro k hk
    exact Nat.mod_eq_of_lt (by omega)
  rw [hfirst m (Nat.le_of_lt hlt), hfirst n (Nat.le_refl n)]
  split_ifs <;>
    simp (disch := omega) only [List.cons_append, List.nil_append, ofNat_cons_lt_iff] <;> omega

theorem flatMap_encode_lt {cs ds : List Char} (h : cs < ds) :
    cs.flatMap String.utf8EncodeChar < ds.flatMap String.utf8EncodeChar := by
  induction cs generalizing ds with
  | nil => cases ds with
    | nil => exact absurd h (List.lt_irrefl [])
    | cons d ds =>
        obtain ⟨x, xs, hx⟩ := List.exists_cons_of_ne_nil (String.utf8EncodeChar_ne_nil (c := d))
        rw [List.flatMap_cons, hx]
        exact List.nil_lt_cons x _
  | cons c cs ih => cases ds with
    | nil => cases h
    | cons d ds =>
        rw [List.flatMap_cons, List.flatMap_cons]
        rcases List.cons_lt_cons_iff.mp h with hcd | ⟨rfl, hrest⟩
        · exact encode_append_lt hcd _ _
        · exact List.append_left_lt (ih hrest)

theorem bytes_lt_of_lt {a b : String} (h : a < b) : bytes a < bytes b := by
  rw [bytes_eq_flatMap, bytes_eq_flatMap]
  exact flatMap_encode_lt h

end OptionalContainers.Text
