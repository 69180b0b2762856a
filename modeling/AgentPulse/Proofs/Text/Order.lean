import AgentPulse.Proofs.Text.Utf8
import Mathlib.Data.Char

/-!
# The order of texts is the order of their bytes

UTF-8 was made so that texts are in the same order whether they are compared by code points or by
bytes (`encode_lt_encode`): of two characters the later one has the greater bytes, where they first
differ, and neither is the beginning of the other (`encodeChar_lt`).
-/

namespace AgentPulse.Text.Utf8

/-! ## Characters -/

theorem cons_ofNat_lt {m n : Nat} (hm : m < 256) (hn : n < 256) (xs ys : Bytes) :
    UInt8.ofNat m :: xs < UInt8.ofNat n :: ys ↔ m < n ∨ m = n ∧ xs < ys := by
  rw [List.cons_lt_cons_iff, UInt8.lt_iff_toNat_lt, ← UInt8.toNat_inj,
    toNat_ofNat hm, toNat_ofNat hn]

/-- A later character has greater bytes, whatever follows. -/
theorem encodeChar_lt {c d : Char} (h : c < d) (xs ys : Bytes) :
    String.utf8EncodeChar c ++ xs < String.utf8EncodeChar d ++ ys := by
  have hlt : c.toNat < d.toNat := h
  have hmax := toNat_le_max d
  -- With as many bytes each, they are the digits of the code points; with more bytes, the first
  -- one is greater already.
  rcases encodeChar_append c xs with ⟨hc, ec⟩ | ⟨hc, hc', ec⟩ | ⟨hc, hc', ec⟩ | ⟨hc, ec⟩ <;>
  rcases encodeChar_append d ys with ⟨hd, ed⟩ | ⟨hd, hd', ed⟩ | ⟨hd, hd', ed⟩ | ⟨hd, ed⟩ <;>
  rw [ec, ed] <;>
  simp (disch := omega) only [cons_ofNat_lt] <;>
  omega

/-! ## Texts -/

theorem encode_lt_encode_of_lt {s t : String} (h : s < t) : encode s < encode t := by
  rw [String.lt_iff] at h
  rw [encode, encode]
  generalize s.toList = cs at h
  generalize t.toList = ds at h
  induction cs generalizing ds with
  | nil =>
    cases ds with
    | nil => exact absurd h (List.lt_irrefl _)
    | cons d ds =>
      obtain ⟨b, bs, hd⟩ := List.exists_cons_of_ne_nil (String.utf8EncodeChar_ne_nil (c := d))
      rw [List.flatMap_nil, List.flatMap_cons, hd]
      exact List.nil_lt_cons _ _
  | cons c cs ih =>
    cases ds with
    | nil => exact absurd h (List.not_lt_nil _)
    | cons d ds =>
      rw [List.flatMap_cons, List.flatMap_cons]
      rcases List.cons_lt_cons_iff.mp h with hlt | ⟨rfl, hrest⟩
      · exact encodeChar_lt hlt _ _
      · exact List.append_left_lt (ih ds hrest)

/-- Texts are in the order of their bytes. -/
theorem encode_lt_encode {s t : String} : encode s < encode t ↔ s < t := by
  refine ⟨fun h => ?_, encode_lt_encode_of_lt⟩
  rcases Std.lt_trichotomy (a := s) (b := t) with hlt | rfl | hgt
  · exact hlt
  · exact absurd h (List.lt_irrefl _)
  · exact absurd h (List.lt_asymm (encode_lt_encode_of_lt hgt))

end AgentPulse.Text.Utf8
