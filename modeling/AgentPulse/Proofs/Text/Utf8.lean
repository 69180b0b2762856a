import AgentPulse.Text.Utf8
import Mathlib.Tactic.IntervalCases

/-!
# Text that is written as bytes is read back

A text is the text of its own bytes (`text?_encode`). The first byte of a character tells how many
more belong to it, and leaves out for the next one what no character is written with; the bytes of
a character are never among that, so they are read as the character, whatever follows
(`decodeFrom_encodeChar`).
-/

namespace AgentPulse.Text.Utf8

/-! ## The bytes of a character -/

theorem toNat_le_max (c : Char) : c.toNat ≤ 0x10FFFF := by
  have hvalid : c.toNat < 0xD800 ∨ 0xDFFF < c.toNat ∧ c.toNat < 0x110000 := c.valid
  omega

/-- The bytes of a character, whatever follows: how many there are, and what they are. -/
theorem encodeChar_append (c : Char) (rest : Bytes) :
    (c.toNat ≤ 0x7F ∧ String.utf8EncodeChar c ++ rest = .ofNat c.toNat :: rest) ∨
    (0x7F < c.toNat ∧ c.toNat ≤ 0x7FF ∧ String.utf8EncodeChar c ++ rest
      = .ofNat (c.toNat / 64 + 192) :: .ofNat (c.toNat % 64 + 128) :: rest) ∨
    (0x7FF < c.toNat ∧ c.toNat ≤ 0xFFFF ∧ String.utf8EncodeChar c ++ rest
      = .ofNat (c.toNat / 4096 + 224) :: .ofNat (c.toNat / 64 % 64 + 128)
        :: .ofNat (c.toNat % 64 + 128) :: rest) ∨
    (0xFFFF < c.toNat ∧ String.utf8EncodeChar c ++ rest
      = .ofNat (c.toNat / 262144 + 240) :: .ofNat (c.toNat / 4096 % 64 + 128)
        :: .ofNat (c.toNat / 64 % 64 + 128) :: .ofNat (c.toNat % 64 + 128) :: rest) := by
  have hmax := toNat_le_max c
  have hval : c.val.toNat = c.toNat := rfl
  rw [String.utf8EncodeChar, hval]
  split_ifs with h1 h2 h3
  · exact .inl ⟨h1, rfl⟩
  · refine .inr (.inl ⟨by omega, h2, ?_⟩)
    rw [show c.toNat / 64 % 32 = c.toNat / 64 by omega]
    rfl
  · refine .inr (.inr (.inl ⟨by omega, h3, ?_⟩))
    rw [show c.toNat / 4096 % 16 = c.toNat / 4096 by omega]
    rfl
  · refine .inr (.inr (.inr ⟨by omega, ?_⟩))
    rw [show c.toNat / 262144 % 8 = c.toNat / 262144 by omega]
    rfl

/-! ## The first byte -/

variable {m n : Nat}

theorem toNat_ofNat (h : n < 0x100) : (UInt8.ofNat n).toNat = n := UInt8.toNat_ofNat_of_lt' h

theorem lead_ofNat_of_lt (h : n < 0x80) : lead (.ofNat n) = .whole (Char.ofNat n) := by
  have hn := toNat_ofNat (Nat.lt_trans h (by decide))
  have hlow : UInt8.ofNat n < 0x80 := by
    rw [UInt8.lt_iff_toNat_lt, hn]
    exact h
  rw [lead, if_pos hlow, hn]

theorem lead_of_two (h : 2 ≤ m) (h' : m < 32) :
    lead (.ofNat (m + 0xC0)) = .start { code := m, owed := 1 } := by
  interval_cases m <;> rfl

theorem lead_of_three (h : m < 16) :
    lead (.ofNat (m + 0xE0)) = .start
      { code := m, owed := 2
        low := if m = 0 then 0xA0 else 0x80
        high := if m = 13 then 0x9F else 0xBF } := by
  interval_cases m <;> rfl

theorem lead_of_four (h : m < 5) :
    lead (.ofNat (m + 0xF0)) = .start
      { code := m, owed := 3
        low := if m = 0 then 0x90 else 0x80
        high := if m = 4 then 0x8F else 0xBF } := by
  interval_cases m <;> rfl

/-! ## The bytes after it -/

variable {code owed d : Nat} {low high : UInt8}

theorem ofNat_between (hlow : low.toNat ≤ n) (hhigh : n ≤ high.toNat) :
    (UInt8.ofNat n).toNat = n ∧ low ≤ .ofNat n ∧ .ofNat n ≤ high := by
  have hn := toNat_ofNat (Nat.lt_of_le_of_lt hhigh high.toNat_lt)
  rw [UInt8.le_iff_toNat_le, UInt8.le_iff_toNat_le, hn]
  exact ⟨rfl, hlow, hhigh⟩

theorem decodeFrom_last (hlow : low.toNat ≤ d + 0x80) (hhigh : d + 0x80 ≤ high.toNat)
    (rest : Bytes) :
    decodeFrom (some ⟨code, 1, low, high⟩) (.ofNat (d + 0x80) :: rest)
      = some (Char.ofNat (code * 64 + d)) :: decodeFrom none rest := by
  obtain ⟨hd, hbounds⟩ := ofNat_between hlow hhigh
  rw [decodeFrom, if_pos hbounds, hd, Nat.add_sub_cancel]
  rfl

theorem decodeFrom_more (hlow : low.toNat ≤ d + 0x80) (hhigh : d + 0x80 ≤ high.toNat)
    (rest : Bytes) :
    decodeFrom (some ⟨code, owed + 2, low, high⟩) (.ofNat (d + 0x80) :: rest)
      = decodeFrom (some { code := code * 64 + d, owed := owed + 1 }) rest := by
  obtain ⟨hd, hbounds⟩ := ofNat_between hlow hhigh
  rw [decodeFrom, if_pos hbounds, hd, Nat.add_sub_cancel]
  exact if_neg (Nat.not_le_of_gt (Nat.lt_add_left owed (by decide)))

/-- The bytes of a character are read as the character, whatever follows. -/
theorem decodeFrom_encodeChar (c : Char) (rest : Bytes) :
    decodeFrom none (String.utf8EncodeChar c ++ rest) = some c :: decodeFrom none rest := by
  have hvalid : c.toNat < 0xD800 ∨ 0xDFFF < c.toNat ∧ c.toNat < 0x110000 := c.valid
  have hlow : ∀ d, UInt8.toNat 0x80 ≤ d + 0x80 := Nat.le_add_left _
  have hhigh : ∀ k, k % 64 + 0x80 ≤ UInt8.toNat 0xBF := fun k =>
    Nat.add_le_add_right (Nat.le_of_lt_succ (Nat.mod_lt k (by decide))) _
  rcases encodeChar_append c rest with ⟨h, e⟩ | ⟨h, h', e⟩ | ⟨h, h', e⟩ | ⟨h, e⟩
  · rw [e, decodeFrom, lead_ofNat_of_lt (by omega), Char.ofNat_toNat]
  · have hcode : c.toNat / 64 * 64 + c.toNat % 64 = c.toNat := by omega
    rw [e, decodeFrom, lead_of_two (by omega) (by omega)]
    dsimp only
    rw [decodeFrom_last (hlow _) (hhigh _), hcode, Char.ofNat_toNat]
  · have hcode : (c.toNat / 4096 * 64 + c.toNat / 64 % 64) * 64 + c.toNat % 64 = c.toNat := by omega
    rw [e, decodeFrom, lead_of_three (by omega)]
    dsimp only
    -- The second byte leaves out numbers with shorter forms, and surrogates.
    rw [decodeFrom_more, decodeFrom_last (hlow _) (hhigh _), hcode, Char.ofNat_toNat]
    · split
      next hfirst =>
        show 0xA0 ≤ _
        omega
      next => exact hlow _
    · split
      next hfirst =>
        show _ ≤ 0x9F
        omega
      next => exact hhigh _
  · have hcode : ((c.toNat / 262144 * 64 + c.toNat / 4096 % 64) * 64 + c.toNat / 64 % 64) * 64
        + c.toNat % 64 = c.toNat := by omega
    rw [e, decodeFrom, lead_of_four (by omega)]
    dsimp only
    -- The second byte leaves out numbers with shorter forms, and those that are no code points.
    rw [decodeFrom_more, decodeFrom_more (hlow _) (hhigh _), decodeFrom_last (hlow _) (hhigh _),
      hcode, Char.ofNat_toNat]
    · split
      next hfirst =>
        show 0x90 ≤ _
        omega
      next => exact hlow _
    · split
      next hfirst =>
        show _ ≤ 0x8F
        omega
      next => exact hhigh _

/-! ## Texts -/

theorem mapM_id_eq_some {α : Type} {l : List (Option α)} {xs : List α} :
    l.mapM id = some xs ↔ l = xs.map some := by
  induction l generalizing xs with
  | nil => cases xs <;> simp
  | cons x l ih =>
    cases x with
    | none => cases xs <;> simp
    | some x =>
      simp only [List.mapM_cons, id_eq, Option.bind_eq_bind, Option.bind_some,
        Option.bind_eq_some_iff, ih, Option.pure_def, Option.some.injEq]
      constructor
      · rintro ⟨ys, rfl, rfl⟩
        rfl
      · intro h
        obtain ⟨y, ys, rfl, hy, hys⟩ := List.map_eq_cons_iff.mp h.symm
        exact ⟨ys, hys.symm, by rw [Option.some.inj hy]⟩

theorem decode_encode (s : String) : decode (encode s) = s.toList.map some := by
  rw [decode, encode]
  induction s.toList with
  | nil => rfl
  | cons c cs ih => rw [List.flatMap_cons, decodeFrom_encodeChar, ih, List.map_cons]

/-- A text is the text of its bytes. -/
theorem text?_encode (s : String) : text? (encode s) = some s := by
  rw [text?, decode_encode, mapM_id_eq_some.mpr rfl, Option.map_some, String.ofList_toList]

end AgentPulse.Text.Utf8
