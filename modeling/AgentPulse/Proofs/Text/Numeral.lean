import AgentPulse.Proofs.Text.Utf8
import AgentPulse.Text.Decimal
import Mathlib.Data.Nat.Digits.Defs

/-!
# Which bytes are a number

A setting is a string of bytes. It is read as a number exactly if it is the text of one in decimal,
with a plus before it or none, and the number fits into a word (`number?_eq_some`). The bytes of
such a text are its characters: no part of a longer character looks like one of them, whether or not
the bytes are UTF-8 as a whole (`eq_of_decodeFrom`).
-/

namespace AgentPulse.Text

namespace Utf8

/-! ## Characters of one byte -/

/-- Characters that are written as one byte, but for the character zero: the reader shows it for
numbers that are no code point, too. -/
def IsPlain (c : Char) : Prop := 0 < c.toNat ∧ c.toNat < 0x80

/-- The byte of a plain character. -/
def byteOf (c : Char) : UInt8 := UInt8.ofNat c.toNat

theorem lead_byteOf {c : Char} (h : IsPlain c) : lead (byteOf c) = .whole c := by
  rw [byteOf, lead_ofNat_of_lt h.2, Char.ofNat_toNat]

theorem decode_map_byteOf {cs : List Char} (h : ∀ c ∈ cs, IsPlain c) :
    decode (cs.map byteOf) = cs.map some := by
  induction cs with
  | nil => rfl
  | cons c cs ih =>
    rw [decode, List.map_cons, decodeFrom, lead_byteOf (h c List.mem_cons_self)]
    exact congrArg (some c :: ·) (ih fun d hd => h d (List.mem_cons_of_mem _ hd))

/-! ## Longer characters -/

/-- Whatever bytes follow, the character under way will be none of the plain ones. -/
def Partial.IsHigh (p : Partial) : Prop :=
  0x80 ≤ p.low ∧ 0x80 ≤ (p.code * 64 + (p.low.toNat - 0x80)) * 64 ^ (p.owed - 1)

instance (p : Partial) : Decidable p.IsHigh := inferInstanceAs (Decidable (_ ∧ _))

/-- What the first byte of a character tells: it is the byte of the character, or starts a longer
one. -/
def Lead.Suits (b : UInt8) : Lead → Prop
  | .whole c => byteOf c = b
  | .start p => p.IsHigh
  | .stray => True

instance (b : UInt8) : DecidablePred (Lead.Suits b) := fun l =>
  match l with
  | .whole c => inferInstanceAs (Decidable (byteOf c = b))
  | .start p => inferInstanceAs (Decidable p.IsHigh)
  | .stray => inferInstanceAs (Decidable True)

theorem suits_lead (b : UInt8) : (lead b).Suits b := by
  have hall : ∀ n < 256, (lead (UInt8.ofNat n)).Suits (UInt8.ofNat n) := by decide +kernel
  have hb := hall b.toNat b.toNat_lt
  rwa [UInt8.ofNat_toNat] at hb

theorem not_isPlain_ofNat {n : Nat} (h : 0x80 ≤ n) : ¬ IsPlain (Char.ofNat n) := by
  rintro ⟨hpos, hlt⟩
  by_cases hvalid : n.isValidChar
  · have hchar : (Char.ofNat n).toNat = n := by
      rw [Char.ofNat, dif_pos hvalid]
      rfl
    omega
  · have hchar : (Char.ofNat n).toNat = 0 := by
      rw [Char.ofNat, dif_neg hvalid]
      rfl
    omega

/-- A byte that goes on with a character leaves it as high as it was. -/
theorem Partial.IsHigh.next {p : Partial} (h : p.IsHigh) {b : UInt8} (hb : p.low ≤ b) :
    let code := p.code * 64 + (b.toNat - 0x80)
    (p.owed ≤ 1 → 0x80 ≤ code) ∧
    (1 < p.owed → Partial.IsHigh { code, owed := p.owed - 1 }) := by
  intro code
  have hlow : p.low.toNat ≤ b.toNat := UInt8.le_iff_toNat_le.mp hb
  have hcode : p.code * 64 + (p.low.toNat - 0x80) ≤ code := by omega
  have hhigh : 0x80 ≤ code * 64 ^ (p.owed - 1) := h.2.trans (Nat.mul_le_mul_right _ hcode)
  refine ⟨fun howed => ?_, fun howed => ⟨UInt8.le_refl _, ?_⟩⟩
  · rwa [Nat.sub_eq_zero_of_le howed, Nat.pow_zero, Nat.mul_one] at hhigh
  · obtain ⟨k, hk⟩ : ∃ k, p.owed - 1 = k + 1 := ⟨p.owed - 2, by omega⟩
    rw [hk, Nat.pow_succ', ← Nat.mul_assoc] at hhigh
    simpa [hk] using hhigh

/-- Bytes that are read as plain characters are the bytes of these characters. -/
theorem eq_of_decodeFrom {state : Option Partial} {bytes : Bytes} {cs : List Char}
    (h : decodeFrom state bytes = cs.map some) (hplain : ∀ c ∈ cs, IsPlain c)
    (hstate : ∀ p, state = some p → p.IsHigh) : state = none ∧ bytes = cs.map byteOf := by
  induction bytes generalizing state cs with
  | nil =>
    cases state with
    | none => cases cs with
      | nil => exact ⟨rfl, rfl⟩
      | cons c cs => cases h
    | some p => cases cs <;> cases h
  | cons b rest ih =>
    cases state with
    | none =>
      have hsuits := suits_lead b
      rw [decodeFrom] at h
      cases hlead : lead b with
      | whole c =>
        rw [hlead] at h hsuits
        cases cs with
        | nil => cases h
        | cons c' cs =>
          rw [List.map_cons, List.cons.injEq, Option.some.injEq] at h
          obtain ⟨-, hrest⟩ := ih h.2 (fun d hd => hplain d (List.mem_cons_of_mem _ hd))
            fun q hq => absurd hq.symm (Option.some_ne_none q)
          rw [List.map_cons, ← h.1, ← hrest]
          exact ⟨rfl, congrArg (· :: rest) hsuits.symm⟩
      | start p =>
        rw [hlead] at h hsuits
        exact absurd (ih h hplain fun q hq => Option.some.inj hq ▸ hsuits).1
          (Option.some_ne_none p)
      | stray =>
        rw [hlead] at h
        cases cs <;> cases h
    | some p =>
      have hp := hstate p rfl
      rw [decodeFrom] at h
      split at h
      next hb =>
        obtain ⟨hlast, hmore⟩ := hp.next hb.1
        split at h
        next howed =>
          cases cs with
          | nil => cases h
          | cons c cs =>
            rw [List.map_cons, List.cons.injEq, Option.some.injEq] at h
            exact absurd (h.1 ▸ hplain c List.mem_cons_self) (not_isPlain_ofNat (hlast howed))
        next howed =>
          exact absurd (ih h hplain fun q hq =>
            Option.some.inj hq ▸ hmore (Nat.lt_of_not_le howed)).1 (Option.some_ne_none _)
      next => cases cs <;> cases h

/-! ## Texts of plain characters -/

/-- The bytes of a text of plain characters are read as this text, and no others are. -/
theorem text?_eq_some {bytes : Bytes} {s : String} (h : ∀ c ∈ s.toList, IsPlain c) :
    text? bytes = some s ↔ bytes = s.toList.map byteOf := by
  rw [text?, Option.map_eq_some_iff]
  constructor
  · rintro ⟨cs, hcs, rfl⟩
    rw [String.toList_ofList] at h ⊢
    exact (eq_of_decodeFrom (mapM_id_eq_some.mp hcs) h
      fun q hq => absurd hq.symm (Option.some_ne_none q)).2
  · rintro rfl
    exact ⟨s.toList, mapM_id_eq_some.mpr (decode_map_byteOf h), String.ofList_toList⟩

end Utf8

namespace Decimal

/-! ## Numbers -/

/-- The bytes of a number in decimal: a plus or none, and then one digit or more, however many zeros
in front. -/
def IsNumeral (bytes : Bytes) (n : Nat) : Prop :=
  ∃ (plus : Bytes) (ds : List Nat), (plus = [] ∨ plus = [0x2B]) ∧ ds ≠ [] ∧ (∀ d ∈ ds, d < 10) ∧
    bytes = plus ++ ds.map (fun d => UInt8.ofNat (0x30 + d)) ∧ n = Nat.ofDigits 10 ds.reverse

theorem value_eq_ofDigits (cs : List Char) :
    value cs = Nat.ofDigits 10 (cs.map digitValue).reverse := by
  rw [value, Nat.ofDigits_eq_foldr, List.foldr_reverse, List.foldl_map]
  exact congrArg (fun f => cs.foldl f 0) (funext fun n => funext fun c => Nat.add_comm ..)

theorem isDigit_iff {c : Char} : c.isDigit = true ↔ 48 ≤ c.toNat ∧ c.toNat ≤ 57 := by
  simp only [Char.isDigit, Bool.and_eq_true, decide_eq_true_eq, ge_iff_le,
    UInt32.le_iff_toNat_le, Char.toNat]
  exact Iff.rfl

theorem isPlain_of_isDigit {c : Char} (h : c.isDigit = true) : Utf8.IsPlain c := by
  obtain ⟨hlow, hhigh⟩ := isDigit_iff.mp h
  exact ⟨by omega, by omega⟩

/-- A digit and its number. -/
theorem digitValue_lt_ten {c : Char} (h : c.isDigit = true) :
    digitValue c < 10 ∧ Utf8.byteOf c = UInt8.ofNat (0x30 + digitValue c) := by
  obtain ⟨hlow, hhigh⟩ := isDigit_iff.mp h
  have hzero : '0'.toNat = 48 := rfl
  have hvalue : 0x30 + digitValue c = c.toNat := by
    rw [digitValue]
    omega
  exact ⟨by omega, by rw [hvalue, Utf8.byteOf]⟩

theorem digitChar_of_lt_ten {d : Nat} (h : d < 10) :
    d.digitChar.isDigit = true ∧ digitValue d.digitChar = d := by
  have hall : ∀ d < 10, d.digitChar.isDigit = true ∧ digitValue d.digitChar = d := by decide
  exact hall d h

/-- A sign and what follows it. -/
theorem afterPlus_cases (cs : List Char) :
    ∃ plus, (plus = [] ∨ plus = ['+']) ∧ cs = plus ++ afterPlus cs := by
  unfold afterPlus
  split
  next rest => exact ⟨['+'], .inr rfl, rfl⟩
  next => exact ⟨[], .inl rfl, rfl⟩

theorem afterPlus_append {plus cs : List Char} (hplus : plus = [] ∨ plus = ['+'])
    (hdigits : ∀ c ∈ cs, c.isDigit = true) : afterPlus (plus ++ cs) = cs := by
  rcases hplus with rfl | rfl
  · cases cs with
    | nil => rfl
    | cons c cs =>
      unfold afterPlus
      split
      next hplus =>
        have hc := hdigits c List.mem_cons_self
        rw [(List.cons.inj hplus).1] at hc
        cases hc
      next => rfl
  · rfl

theorem word?_eq_some {s : String} {n : Nat} :
    word? s = some n ↔ ∃ plus cs, (plus = [] ∨ plus = ['+']) ∧ cs ≠ [] ∧
      (∀ c ∈ cs, c.isDigit = true) ∧ s.toList = plus ++ cs ∧ n = value cs ∧ n < wordLimit := by
  rw [word?, Option.ite_none_right_eq_some, Option.some.injEq, List.all_eq_true]
  constructor
  · rintro ⟨⟨hne, hdigits, hlt⟩, rfl⟩
    obtain ⟨plus, hplus, hcs⟩ := afterPlus_cases s.toList
    exact ⟨plus, _, hplus, hne, hdigits, hcs, rfl, hlt⟩
  · rintro ⟨plus, cs, hplus, hne, hdigits, hs, rfl, hlt⟩
    rw [hs, afterPlus_append hplus hdigits]
    exact ⟨⟨hne, hdigits, hlt⟩, rfl⟩

theorem isPlain_of_mem {plus cs : List Char} (hplus : plus = [] ∨ plus = ['+'])
    (hdigits : ∀ c ∈ cs, c.isDigit = true) : ∀ c ∈ plus ++ cs, Utf8.IsPlain c := by
  intro c hc
  rcases List.mem_append.mp hc with hc | hc
  · rcases hplus with rfl | rfl
    · cases hc
    · rw [List.mem_singleton.mp hc]
      exact ⟨by decide, by decide⟩
  · exact isPlain_of_isDigit (hdigits c hc)

/-- The bytes of a number are the bytes of its text. -/
theorem isNumeral_iff {bytes : Bytes} {n : Nat} :
    IsNumeral bytes n ↔ ∃ plus cs, (plus = [] ∨ plus = ['+']) ∧ cs ≠ [] ∧
      (∀ c ∈ cs, c.isDigit = true) ∧ bytes = (plus ++ cs).map Utf8.byteOf ∧ n = value cs := by
  constructor
  · rintro ⟨plus, ds, hplus, hne, hds, rfl, rfl⟩
    have hdigits : ∀ c ∈ ds.map Nat.digitChar, c.isDigit = true := fun c hc => by
      obtain ⟨d, hd, rfl⟩ := List.mem_map.mp hc
      exact (digitChar_of_lt_ten (hds d hd)).1
    have hvalues : (ds.map Nat.digitChar).map digitValue = ds := by
      rw [List.map_map]
      exact (List.map_congr_left fun d hd => (digitChar_of_lt_ten (hds d hd)).2).trans
        (List.map_id ds)
    have hbytes : ds.map (fun d => UInt8.ofNat (0x30 + d))
        = (ds.map Nat.digitChar).map Utf8.byteOf := by
      rw [List.map_map]
      refine List.map_congr_left fun d hd => ?_
      obtain ⟨hdigit, hvalue⟩ := digitChar_of_lt_ten (hds d hd)
      rw [Function.comp_apply, (digitValue_lt_ten hdigit).2, hvalue]
    have hvalue : Nat.ofDigits 10 ds.reverse = value (ds.map Nat.digitChar) := by
      rw [value_eq_ofDigits, hvalues]
    have hne' : ds.map Nat.digitChar ≠ [] := fun e => hne (List.map_eq_nil_iff.mp e)
    rw [hbytes, hvalue]
    rcases hplus with rfl | rfl
    · exact ⟨[], _, .inl rfl, hne', hdigits, rfl, rfl⟩
    · exact ⟨['+'], _, .inr rfl, hne', hdigits, rfl, rfl⟩
  · rintro ⟨plus, cs, hplus, hne, hdigits, rfl, rfl⟩
    refine ⟨plus.map Utf8.byteOf, cs.map digitValue, ?_, ?_, ?_, ?_, value_eq_ofDigits cs⟩
    · exact hplus.imp (congrArg (List.map Utf8.byteOf)) (congrArg (List.map Utf8.byteOf))
    · exact fun e => hne (List.map_eq_nil_iff.mp e)
    · intro d hd
      obtain ⟨c, hc, rfl⟩ := List.mem_map.mp hd
      exact (digitValue_lt_ten (hdigits c hc)).1
    · rw [List.map_append, List.map_map]
      exact congrArg _ (List.map_congr_left fun c hc => (digitValue_lt_ten (hdigits c hc)).2)

/-- The number that the bytes of a setting are read as. -/
theorem number?_eq_some {bytes : Bytes} {n : Nat} :
    (Utf8.text? bytes).bind word? = some n ↔ IsNumeral bytes n ∧ n < UInt64.size := by
  rw [Option.bind_eq_some_iff, isNumeral_iff]
  constructor
  · rintro ⟨s, hs, hword⟩
    obtain ⟨plus, cs, hplus, hne, hdigits, hcs, hn, hlt⟩ := word?_eq_some.mp hword
    have hplain := isPlain_of_mem hplus hdigits
    rw [← hcs] at hplain
    have hbytes := (Utf8.text?_eq_some hplain).mp hs
    rw [hcs] at hbytes
    exact ⟨⟨plus, cs, hplus, hne, hdigits, hbytes, hn⟩, hlt⟩
  · rintro ⟨⟨plus, cs, hplus, hne, hdigits, hbytes, hn⟩, hlt⟩
    have hs : (String.ofList (plus ++ cs)).toList = plus ++ cs := String.toList_ofList
    have hplain := isPlain_of_mem hplus hdigits
    rw [← hs] at hplain hbytes
    exact ⟨_, (Utf8.text?_eq_some hplain).mpr hbytes,
      word?_eq_some.mpr ⟨plus, cs, hplus, hne, hdigits, hs, hn, hlt⟩⟩

end Decimal

end AgentPulse.Text
