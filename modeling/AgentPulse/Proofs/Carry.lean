import AgentPulse.Proofs.Beat.Fields
import Mathlib.Algebra.Group.Int.Defs
import Mathlib.Algebra.GroupWithZero.Nat

/-!
# Nanoseconds carried into seconds

The time of a beat is given as seconds of 64 bits and nanoseconds of 32 bits, which may be more than
a second. What they amount to is held against two limits: the seconds of a word, and the seconds of
a clock. Main statement: `carried_within_limits`. The nanoseconds are carried over as numbers
without a bound, so the limits are met exactly, and a beat that is read is written with less than a
second of nanoseconds, from which the same beat is read.
-/

namespace AgentPulse

open Record (Draft Entry Mistake ReadError Setting Shape)
open Json (Node Numeral)

/-! ## Integers in a document -/

/-- Whatever a numeral stands for, as an integer it stands for itself only. -/
theorem Json.Numeral.Spells.eq_of_number? {num : Numeral} {n m : Int} (h : num.Spells n)
    (hm : num.number? = some (.integer m)) :
    m = n := by
  rw [Numeral.number?] at hm
  split at hm
  next =>
    cases hm
    exact h.integer
  next =>
    obtain ⟨d, -, hd⟩ := Option.map_eq_some_iff.mp hm
    cases hd

namespace Record.Field

variable {limit : Nat} {typeName : String} {levels : Nat} {num : Numeral}

theorem word_ofNode_of_lt (hlimit : limit ≤ UInt64.size) {n : Nat} (hn : n < limit)
    (h : num.Spells n) : (word limit typeName).ofNode levels (.number num) = .ok n := by
  have hread : Node.readNumber num = .ok (.integer n) := by
    rw [Node.readNumber, h.number? (Json.isWord_natCast (Nat.lt_of_lt_of_le hn hlimit))]
  show (ofForm (Node.readNumber num) >>= fun v => ofContent (wordOfNumber limit typeName v)) = _
  rw [hread]
  show ofContent (wordOfNumber limit typeName (.integer n)) = _
  rw [wordOfNumber_natCast hn]
  rfl

/-- An integer that is no word is refused: as an integer, as a double or as too large for that. -/
theorem word_ofNode_of_not {m : Int} (hm : ¬(0 ≤ m ∧ m < limit)) (h : num.Spells m) :
    ((word limit typeName).ofNode levels (.number num)).toOption = none := by
  show (ofForm (Node.readNumber num) >>= fun v =>
    ofContent (wordOfNumber limit typeName v)).toOption = none
  rw [Node.readNumber]
  cases hnumber : num.number? with
  | none => rfl
  | some v =>
    cases v with
    | double d => rfl
    | integer n =>
      obtain rfl := h.eq_of_number? hnumber
      show (ofContent (wordOfNumber limit typeName (.integer n))).toOption = none
      rw [wordOfNumber, if_neg hm]
      rfl

theorem word_ofJson_of_lt {n : Nat} (hn : n < limit) :
    (word limit typeName).ofJson (.number (.integer n)) = .ok n := wordOfNumber_natCast hn typeName

theorem word_ofJson_of_not {m : Int} (hm : ¬(0 ≤ m ∧ m < limit)) :
    ((word limit typeName).ofJson (.number (.integer m))).toOption = none := by
  show (wordOfNumber limit typeName (.integer m)).toOption = none
  rw [wordOfNumber, if_neg hm]
  rfl

end Record.Field

/-! ## Seconds and nanoseconds -/

namespace Instant

/-- The instant that seconds and nanoseconds amount to, within the limits of a word and of a
clock. -/
def carry (secs nanos : Nat) : Except Mistake Instant :=
  if UInt64.size ≤ wholeSeconds secs nanos then .error .offsetOverflow else ofSum secs nanos

theorem carry_of_le {secs nanos : Nat} (h : wholeSeconds secs nanos ≤ maxSeconds) :
    carry secs nanos = .ok (ofParts secs nanos) := by
  have hsize : ¬UInt64.size ≤ wholeSeconds secs nanos :=
    Nat.not_le.mpr (Nat.lt_of_le_of_lt h (by decide))
  rw [carry, if_neg hsize, ofSum, if_neg (Nat.not_lt.mpr h)]

/-- What an instant is written as is carried to the instant. -/
theorem carry_of_amount {t : Instant} {secs nanos : Nat} (h : t.Amount secs nanos) :
    carry secs nanos = .ok t := by
  have hwhole : wholeSeconds secs nanos = secs := by
    rw [wholeSeconds, Nat.div_eq_of_lt h.nanos_lt, Nat.add_zero]
  have hle : wholeSeconds secs nanos ≤ maxSeconds := by
    rw [hwhole]
    exact h.secs_le
  rw [carry_of_le hle, h.sum]

theorem carry_of_word {secs nanos : Nat} (h : UInt64.size ≤ wholeSeconds secs nanos) :
    carry secs nanos = .error .offsetOverflow := by rw [carry, if_pos h]

theorem carry_of_clock {secs nanos : Nat} (hclock : maxSeconds < wholeSeconds secs nanos)
    (hword : wholeSeconds secs nanos < UInt64.size) :
    carry secs nanos = .error .instantOverflow := by
  rw [carry, if_neg (Nat.not_le.mpr hword), ofSum, if_pos hclock]

theorem ofParts_natCast (secs nanos : Nat) :
    ofParts secs nanos = ⟨(secs * perSecond + nanos : Nat)⟩ := by
  rw [ofParts, Int.natCast_add, Int.natCast_mul]

/-- Seconds and nanoseconds amount to as many nanoseconds as whole seconds and less than a second
do. -/
theorem exists_fields {secs nanos : Nat} (h : wholeSeconds secs nanos ≤ maxSeconds) :
    ∃ s n, (ofParts secs nanos).members = .ok (fields s n) ∧ (ofParts secs nanos).Amount s n ∧
      s * perSecond + n = secs * perSecond + nanos := by
  have hwhole : (secs * perSecond + nanos) / perSecond = wholeSeconds secs nanos := by
    rw [Nat.add_comm, Nat.add_mul_div_right _ _ (by decide), wholeSeconds, Nat.add_comm]
  refine ⟨(secs * perSecond + nanos) / perSecond, (secs * perSecond + nanos) % perSecond, ?_,
    ⟨?_, hwhole ▸ h, Nat.mod_lt _ (by decide)⟩, Nat.div_add_mod' ..⟩
  · rw [ofParts_natCast, members_of_nonneg (Int.natCast_nonneg _), Int.toNat_natCast]
  · rw [ofParts_natCast, ofParts_natCast, Nat.div_add_mod']

theorem fits_of_le {secs nanos : Nat} (h : wholeSeconds secs nanos ≤ maxSeconds) :
    (ofParts secs nanos).Fits := by
  obtain ⟨s, n, -, hamount, -⟩ := exists_fields h
  have hlt : s * perSecond + n < (maxSeconds + 1) * perSecond :=
    calc s * perSecond + n
      _ < s * perSecond + perSecond := Nat.add_lt_add_left hamount.nanos_lt _
      _ = (s + 1) * perSecond := (Nat.succ_mul s perSecond).symm
      _ ≤ (maxSeconds + 1) * perSecond :=
        Nat.mul_le_mul_right _ (Nat.succ_le_succ hamount.secs_le)
  rw [hamount.sum, ofParts_natCast]
  exact Int.ofNat_lt.mpr hlt

/-! ### Given in a document or a value -/

/-- A node that gives seconds and nanoseconds, in one order or the other. -/
def IsGivenIn (secs nanos : Int) (n : Node) : Prop :=
  ∃ a b x y ms, n = .object ms none ∧ ms.Perm [(a, .number x), (b, .number y)] ∧
    a.readName = .ok (shape.name .secs) ∧ b.readName = .ok (shape.name .nanos) ∧
    x.Spells secs ∧ y.Spells nanos

/-- A value that gives seconds and nanoseconds, in one order or the other. -/
def IsGivenInJson (secs nanos : Int) (j : Json) : Prop :=
  ∃ ms, j = .object ms ∧ ms.Perm [(shape.name .secs, .number (.integer secs)),
    (shape.name .nanos, .number (.integer nanos))]

/-- Written as compact text, seconds and nanoseconds are given. -/
theorem isGivenIn_toNode (secs nanos : Int) :
    IsGivenIn secs nanos (Json.toNode (.object [(shape.name .secs, .number (.integer secs)),
      (shape.name .nanos, .number (.integer nanos))])) :=
  ⟨.text (Json.units (shape.name .secs)), .text (Json.units (shape.name .nanos)),
    Json.numeral secs, Json.numeral nanos, _, rfl, .refl _, Json.readName_units _,
    Json.readName_units _, Json.spells_numeral _, Json.spells_numeral _⟩

section

variable {ε : Type} {twice : Part → ε} {l : List (Entry ε fun _ : Part => Nat)}

theorem gatherAll_given {secs nanos : Nat}
    (h : l.Perm [.field .secs (.ok secs), .field .nanos (.ok nanos)]) :
    Entry.gatherAll twice Draft.blank l
      = .ok ((Draft.blank.set .secs secs).set .nanos nanos) := by
  rw [← toOption_eq_some, Entry.toOption_gatherAll_perm h]
  rfl

theorem gatherAll_not_given (twice : Part → ε) {r r' : Except ε Nat}
    (h : l.Perm [.field .secs r, .field .nanos r']) (hr : r.toOption = none ∨ r'.toOption = none) :
    (Entry.gatherAll twice Draft.blank l).toOption = none := by
  rw [Entry.toOption_gatherAll_perm h, Entry.toOption_gatherAll]
  cases r with
  | error e => rfl
  | ok x =>
    cases r' with
    | error e => rfl
    | ok y => exact hr.elim nofun nofun

end

variable {secs nanos : Nat} {levels : Nat}

theorem nodeEntries_perm {x y : Numeral} {a b : Node} {ms : List (Node × Node)}
    (hms : ms.Perm [(a, .number x), (b, .number y)]) (ha : a.readName = .ok (shape.name .secs))
    (hb : b.readName = .ok (shape.name .nanos)) (levels : Nat) :
    (ms.map (shape.nodeEntry levels)).Perm
      [.field .secs ((shape.field .secs).ofNode levels (.number x)),
        .field .nanos ((shape.field .nanos).ofNode levels (.number y))] := by
  have hperm := hms.map (shape.nodeEntry levels)
  rwa [List.map_cons, List.map_cons, List.map_nil, Shape.nodeEntry_of_ok ha,
    Shape.nodeEntry_of_ok hb, Shape.namedEntry_of_some (tag?_name .secs),
    Shape.namedEntry_of_some (tag?_name .nanos)] at hperm

/-- Seconds and nanoseconds that fit are carried. -/
theorem ofNode_given (hsecs : secs < UInt64.size) (hnanos : nanos < UInt32.size) {n : Node}
    (hn : IsGivenIn secs nanos n) :
    ofNode (levels + 1) n = Record.ofContent (carry secs nanos) := by
  obtain ⟨a, b, x, y, ms, rfl, hms, ha, hb, hx, hy⟩ := hn
  have hperm := nodeEntries_perm hms ha hb levels
  have hx' : (shape.field .secs).ofNode levels (.number x) = .ok secs :=
    Record.Field.word_ofNode_of_lt (Nat.le_refl _) hsecs hx
  have hy' : (shape.field .nanos).ofNode levels (.number y) = .ok nanos :=
    Record.Field.word_ofNode_of_lt (by decide) hnanos hy
  rw [hx', hy'] at hperm
  rw [ofNode, Shape.ofNode_object, Shape.gatherNodes_eq, gatherAll_given hperm]
  show ((Record.ofContent (checkParts (some secs) (some nanos))).map _ >>= _) = _
  rw [checkParts, carry]
  split <;> rfl

theorem ofNode_not_given {secs nanos : Int}
    (h : ¬(0 ≤ secs ∧ secs < UInt64.size) ∨ ¬(0 ≤ nanos ∧ nanos < UInt32.size)) {n : Node}
    (hn : IsGivenIn secs nanos n) : (ofNode (levels + 1) n).toOption = none := by
  obtain ⟨a, b, x, y, ms, rfl, hms, ha, hb, hx, hy⟩ := hn
  have hnone := gatherAll_not_given (fun i => .content (shape.twice i))
    (nodeEntries_perm hms ha hb levels) (h.imp
      (fun h => Record.Field.word_ofNode_of_not h hx)
      (fun h => Record.Field.word_ofNode_of_not h hy))
  rw [ofNode, Shape.ofNode_object, Shape.gatherNodes_eq, toOption_bind, toOption_bind, hnone]
  rfl

theorem entries_perm {secs nanos : Int} {ms : List (String × Json)}
    (hms : ms.Perm [(shape.name .secs, .number (.integer secs)),
      (shape.name .nanos, .number (.integer nanos))]) :
    (ms.map shape.entry).Perm
      [.field .secs ((shape.field .secs).ofJson (.number (.integer secs))),
        .field .nanos ((shape.field .nanos).ofJson (.number (.integer nanos)))] :=
  hms.map shape.entry

theorem ofJson_given (hsecs : secs < UInt64.size) (hnanos : nanos < UInt32.size) {j : Json}
    (hj : IsGivenInJson secs nanos j) : ofJson j = carry secs nanos := by
  obtain ⟨ms, rfl, hms⟩ := hj
  have hperm := entries_perm hms
  have hx : (shape.field .secs).ofJson (.number (.integer secs)) = .ok secs :=
    Record.Field.word_ofJson_of_lt hsecs
  have hy : (shape.field .nanos).ofJson (.number (.integer nanos)) = .ok nanos :=
    Record.Field.word_ofJson_of_lt hnanos
  rw [hx, hy] at hperm
  show (shape.gather ms Draft.blank >>= ofDraft) = _
  rw [Shape.gather_eq, gatherAll_given hperm]
  show ((checkParts (some secs) (some nanos)).map _ >>= _) = _
  rw [checkParts, carry]
  split <;> rfl

theorem ofJson_not_given {secs nanos : Int}
    (h : ¬(0 ≤ secs ∧ secs < UInt64.size) ∨ ¬(0 ≤ nanos ∧ nanos < UInt32.size)) {j : Json}
    (hj : IsGivenInJson secs nanos j) : (ofJson j).toOption = none := by
  obtain ⟨ms, rfl, hms⟩ := hj
  have hnone := gatherAll_not_given shape.twice (entries_perm hms) (h.imp
    (fun h => Record.Field.word_ofJson_of_not h) (fun h => Record.Field.word_ofJson_of_not h))
  show (shape.gather ms Draft.blank >>= ofDraft).toOption = none
  rw [Shape.gather_eq, toOption_bind, toOption_bind, hnone]
  rfl

end Instant

/-! ## Beats -/

namespace Beat

variable {b₀ : Beat}

/-! ### Limits -/

/-- What becomes of a beat with its time given as seconds and nanoseconds. Both limits are met
exactly. -/
structure Outcome {ε : Type} (content : Mistake → ε) (b₀ : Beat) (secs nanos : Nat)
    (r : Except ε Beat) : Prop where
  accepted : (∃ b, r = .ok b) ↔ secs + nanos / 10 ^ 9 ≤ 2 ^ 63 - 1
  beyondWord : (∃ m, r = .error (content m) ∧
    m.message = "overflow deserializing SystemTime epoch offset") ↔ 2 ^ 64 ≤ secs + nanos / 10 ^ 9
  beyondClock : (∃ m, r = .error (content m) ∧ m.message = "overflow deserializing SystemTime") ↔
    2 ^ 63 - 1 < secs + nanos / 10 ^ 9 ∧ secs + nanos / 10 ^ 9 < 2 ^ 64
  beat : ∀ b, r = .ok b → b = b₀.withTime (.ofParts secs nanos)

theorem outcome_of_eq {ε : Type} {content : Mistake → ε}
    (hcontent : ∀ m m', content m = content m' → m = m') {secs nanos : Nat} {r : Except ε Beat}
    (hr : r = ((Instant.carry secs nanos).mapError content).map b₀.withTime) :
    Outcome content b₀ secs nanos r := by
  have hmessage : ∀ e text, (∃ m, (.error (content e) : Except ε Beat) = .error (content m) ∧
      m.message = text) ↔ e.message = text := fun e text => by
    constructor
    · rintro ⟨m, hm, rfl⟩
      rw [hcontent e m (Except.error.inj hm)]
    · exact fun h => ⟨e, rfl, h⟩
  rw [hr]
  rcases Nat.lt_or_ge Instant.maxSeconds (Instant.wholeSeconds secs nanos) with hclock | hle
  · have hrefused : ¬secs + nanos / 10 ^ 9 ≤ 2 ^ 63 - 1 := Nat.not_le.mpr hclock
    rcases Nat.lt_or_ge (Instant.wholeSeconds secs nanos) UInt64.size with hword | hword
    · rw [Instant.carry_of_clock hclock hword]
      exact {
        accepted := iff_of_false (fun ⟨_, h⟩ => nomatch h) hrefused
        beyondWord := (hmessage _ _).trans (iff_of_false (by decide) (Nat.not_le.mpr hword))
        beyondClock := (hmessage _ _).trans (iff_of_true rfl ⟨hclock, hword⟩)
        beat := fun _ h => nomatch h }
    · rw [Instant.carry_of_word hword]
      exact {
        accepted := iff_of_false (fun ⟨_, h⟩ => nomatch h) hrefused
        beyondWord := (hmessage _ _).trans (iff_of_true rfl hword)
        beyondClock :=
          (hmessage _ _).trans (iff_of_false (by decide) fun h => Nat.not_le.mpr h.2 hword)
        beat := fun _ h => nomatch h }
  · rw [Instant.carry_of_le hle]
    have hword : ¬2 ^ 64 ≤ secs + nanos / 10 ^ 9 :=
      Nat.not_le.mpr (Nat.lt_of_le_of_lt hle (by decide))
    exact {
      accepted := iff_of_true ⟨_, rfl⟩ hle
      beyondWord := iff_of_false (fun ⟨_, h, _⟩ => nomatch h) hword
      beyondClock := iff_of_false (fun ⟨_, h, _⟩ => nomatch h) fun h => Nat.not_le.mpr h.1 hle
      beat := fun _ h => (Except.ok.inj h).symm }

/-- A document in which everything but the time is known: with some time it is read as a beat. -/
structure IsAround (b₀ : Beat) (c : Setting Node Node) : Prop where
  place : c.IsNodeAt shape .time
  valid : ∃ n, ofNode Json.maxLevels (c.fill n) = .ok b₀

/-- A value in which everything but the time is known. -/
structure IsAroundJson (b₀ : Beat) (c : Setting String Json) : Prop where
  place : c.IsValueAt shape .time
  valid : ∃ j, ofJson (c.fillJson j) = .ok b₀

theorem ofText_given {c : Setting Node Node} (hc : IsAround b₀ c) {n : Node} {text : String}
    (htext : Json.Document.ofText text = ⟨c.fill n, false⟩) :
    ofText text = (Instant.ofNode 126 n).map b₀.withTime := by
  obtain ⟨n₀, hvalid⟩ := hc.valid
  rw [ofText, Record.ofText_of_document ofNode htext]
  exact ofNode_fill hc.place hvalid n

/-- An instant is written as whole seconds and less than a second, which amount to the same as other
seconds and nanoseconds do. -/
structure IsNormalOf (secs nanos : Nat) (t : Instant) (s n : Nat) : Prop where
  members : t.members = .ok (Instant.fields s n)
  nanos_lt : n < 10 ^ 9
  sum : s * 10 ^ 9 + n = secs * 10 ^ 9 + nanos

/-- What is written of an instant is within the limits and carried to the same instant. -/
theorem exists_isNormalOf {secs nanos : Nat} (hle : secs + nanos / 10 ^ 9 ≤ 2 ^ 63 - 1) :
    ∃ s n, IsNormalOf secs nanos (.ofParts secs nanos) s n ∧ s < UInt64.size ∧ n < UInt32.size ∧
      Instant.carry s n = .ok (.ofParts secs nanos) := by
  obtain ⟨s, n, hmembers, hamount, hsum⟩ := Instant.exists_fields
    (show Instant.wholeSeconds secs nanos ≤ Instant.maxSeconds from hle)
  have hs : s < UInt64.size := Nat.lt_of_le_of_lt hamount.secs_le (by decide)
  have hn : n < UInt32.size :=
    Nat.lt_trans hamount.nanos_lt (show Instant.perSecond < UInt32.size by decide)
  exact ⟨s, n, ⟨hmembers, hamount.nanos_lt, hsum⟩, hs, hn, Instant.carry_of_amount hamount⟩

theorem isProper_carried {secs nanos : Nat} (hle : secs + nanos / 10 ^ 9 ≤ 2 ^ 63 - 1)
    (horderly : Json.OrderlyMembers b₀.details.entries) :
    (b₀.withTime (.ofParts secs nanos)).IsProper :=
  ⟨Instant.fits_of_le hle, horderly⟩

/-- A beat is read off its value. -/
theorem exists_toJson_carried {secs nanos : Nat} (hle : secs + nanos / 10 ^ 9 ≤ 2 ^ 63 - 1)
    (b₀ : Beat) :
    ∃ j, (b₀.withTime (.ofParts secs nanos)).toJson = .ok j ∧
      ofJson j = .ok (b₀.withTime (.ofParts secs nanos)) := by
  have hfits : (b₀.withTime (.ofParts secs nanos)).time.Fits := Instant.fits_of_le hle
  obtain ⟨s, n, hnormal, -⟩ := exists_isNormalOf hle
  have hnonneg : 0 ≤ (b₀.withTime (.ofParts secs nanos)).time.nanos :=
    Instant.exists_members_iff.mp ⟨_, hnormal.members⟩
  obtain ⟨j, hj⟩ := exists_toJson_iff.mpr hnonneg
  exact ⟨j, hj, ofJson_toJson hfits hj⟩

/-- Let everything about an event but its time be such that it can be read, from a document or a
value, and let the time be given as seconds below 2⁶⁴ and nanoseconds below 2³². The event is read
exactly if the seconds, with those that the nanoseconds amount to, are at most 2⁶³ - 1; else it is
refused for the limit of a word, or that of a clock. What is read has the instant that the two
amount to. It is written as whole seconds and less than a second of nanoseconds which amount to the
same, and with these in their place the same beat is read; so it is off its value, and off its texts
if those can be read. Any other integer in the place of either is refused. -/
theorem carried_within_limits :
    (∀ b₀ c, IsAround b₀ c → ∀ n text, Json.Document.ofText text = ⟨c.fill n, false⟩ →
      (∀ secs nanos : Int, Instant.IsGivenIn secs nanos n →
        ¬(0 ≤ secs ∧ secs < 2 ^ 64) ∨ ¬(0 ≤ nanos ∧ nanos < 2 ^ 32) →
        ¬∃ b, ofText text = .ok b) ∧
      ∀ secs nanos : Nat, secs < 2 ^ 64 → nanos < 2 ^ 32 → Instant.IsGivenIn secs nanos n →
        Outcome ReadError.content b₀ secs nanos (ofText text) ∧
        ∀ b, ofText text = .ok b →
          (∃ s' n', IsNormalOf secs nanos b.time s' n' ∧
            ∀ again text', Json.Document.ofText text' = ⟨c.fill again, false⟩ →
              Instant.IsGivenIn s' n' again → ofText text' = .ok b) ∧
          (∃ j, b.toJson = .ok j ∧ ofJson j = .ok b) ∧
          (b.IsPortable → ∀ text', b.IsTextOf text' → ofText text' = .ok b)) ∧
    ∀ b₀ c, IsAroundJson b₀ c → ∀ j,
      (∀ secs nanos : Int, Instant.IsGivenInJson secs nanos j →
        ¬(0 ≤ secs ∧ secs < 2 ^ 64) ∨ ¬(0 ≤ nanos ∧ nanos < 2 ^ 32) →
        ¬∃ b, ofJson (c.fillJson j) = .ok b) ∧
      ∀ secs nanos : Nat, secs < 2 ^ 64 → nanos < 2 ^ 32 → Instant.IsGivenInJson secs nanos j →
        Outcome id b₀ secs nanos (ofJson (c.fillJson j)) ∧
        ∀ b, ofJson (c.fillJson j) = .ok b →
          (∃ s' n', IsNormalOf secs nanos b.time s' n' ∧
            ∀ again, Instant.IsGivenInJson s' n' again → ofJson (c.fillJson again) = .ok b) ∧
          ∃ j', b.toJson = .ok j' ∧ ofJson j' = .ok b := by
  constructor
  · intro b₀ c hc n text htext
    have hread := ofText_given hc htext
    refine ⟨fun secs nanos hn hother => ?_, fun secs nanos hsecs hnanos hn => ?_⟩
    · rw [hread, exists_map_eq_ok_iff, ← toOption_eq_none]
      exact Instant.ofNode_not_given hother hn
    · have houtcome : Outcome ReadError.content b₀ secs nanos (ofText text) := by
        refine outcome_of_eq (fun _ _ h => by cases h; rfl) ?_
        rw [hread, Instant.ofNode_given hsecs hnanos hn]
        rfl
      refine ⟨houtcome, fun b hb => ?_⟩
      have hle := houtcome.accepted.mp ⟨b, hb⟩
      obtain rfl := houtcome.beat b hb
      obtain ⟨s', n', hnormal, hs', hn', hcarry⟩ := exists_isNormalOf hle
      refine ⟨⟨s', n', hnormal, fun again text' htext' hagain => ?_⟩, exists_toJson_carried hle b₀,
        fun hportable text' htext' => ?_⟩
      · rw [ofText_given hc htext', Instant.ofNode_given hs' hn' hagain, hcarry]
        rfl
      · obtain ⟨n₀, hvalid⟩ := hc.valid
        have hproper := isProper_carried hle (orderly_details hvalid)
        obtain ⟨j, hj⟩ := exists_toJson_of_isTextOf htext'
        exact (ofText_of_isTextOf hproper hportable hj htext').1
  · intro b₀ c hc j
    obtain ⟨j₀, hvalid⟩ := hc.valid
    have hread := ofJson_fill hc.place hvalid
    refine ⟨fun secs nanos hj hother => ?_, fun secs nanos hsecs hnanos hj => ?_⟩
    · rw [hread, exists_map_eq_ok_iff, ← toOption_eq_none]
      exact Instant.ofJson_not_given hother hj
    · have houtcome : Outcome id b₀ secs nanos (ofJson (c.fillJson j)) := by
        refine outcome_of_eq (fun _ _ h => h) ?_
        rw [hread, Instant.ofJson_given hsecs hnanos hj]
        cases Instant.carry secs nanos <;> rfl
      refine ⟨houtcome, fun b hb => ?_⟩
      have hle := houtcome.accepted.mp ⟨b, hb⟩
      obtain rfl := houtcome.beat b hb
      obtain ⟨s', n', hnormal, hs', hn', hcarry⟩ := exists_isNormalOf hle
      refine ⟨⟨s', n', hnormal, fun again hagain => ?_⟩, exists_toJson_carried hle b₀⟩
      rw [hread, Instant.ofJson_given hs' hn' hagain, hcarry]
      rfl

/-- The last time that a clock can hold, given with a surplus of nanoseconds, and times that are
beyond one limit or the other by what is carried only. -/
theorem carried_within_limits_by_one_second :
    let event (secs nanos : Int) : Json := .object [("agent_key", .text "a"),
      ("timestamp", .object [("secs_since_epoch", .number (.integer secs)),
        ("nanos_since_epoch", .number (.integer nanos))]), ("status", .text "idle")]
    let beat : Beat := { agent := "a", status := "idle" }
    ofText (event (2 ^ 63 - 2) 1999999999).compact
      = .ok (beat.withTime (.ofParts (2 ^ 63 - 1) 999999999)) ∧
    (∃ m, ofText (event (2 ^ 63 - 1) 1000000000).compact = .error (.content m) ∧
      m.message = "overflow deserializing SystemTime") ∧
    (∃ m, ofText (event (2 ^ 64 - 4) 4294967295).compact = .error (.content m) ∧
      m.message = "overflow deserializing SystemTime epoch offset") ∧
    (¬∃ b, ofText (event (-1) 0).compact = .ok b) ∧
    (∃ m, ofJson (event (2 ^ 63 - 1) 1000000000) = .error m ∧
      m.message = "overflow deserializing SystemTime") := by
  intro event beat
  obtain ⟨htext, hjson⟩ := carried_within_limits
  let c : Setting Node Node := .member (Json.toMemberNodes [("agent_key", .text "a")])
    (.text (Json.units "timestamp")) (Json.toMemberNodes [("status", .text "idle")])
  let c' : Setting String Json :=
    .member [("agent_key", .text "a")] "timestamp" [("status", .text "idle")]
  have hplace : c.IsNodeAt shape .time :=
    congrArg Except.toOption (Json.readName_units "timestamp")
  have hc : IsAround beat c := ⟨hplace, Json.toNode (.object (Instant.fields 0 0)), rfl⟩
  have hc' : IsAroundJson beat c' := ⟨rfl, .object (Instant.fields 0 0), rfl⟩
  let time (secs nanos : Int) : Json := .object [("secs_since_epoch", .number (.integer secs)),
    ("nanos_since_epoch", .number (.integer nanos))]
  have hdocument : ∀ secs nanos, Number.isWord secs = true → Number.isWord nanos = true →
      Json.Document.ofText (event secs nanos).compact
        = ⟨c.fill (Json.toNode (time secs nanos)), false⟩ := fun secs nanos hsecs hnanos =>
    Json.Document.ofText_compact (j := event secs nanos)
      ⟨trivial, ⟨hsecs, hnanos, trivial⟩, trivial, trivial⟩
  have hgiven := fun secs nanos => Instant.isGivenIn_toNode secs nanos
  have houtcome : ∀ secs nanos : Nat, secs < 2 ^ 64 → nanos < 2 ^ 32 →
      Outcome ReadError.content beat secs nanos (ofText (event secs nanos).compact) :=
    fun secs nanos hsecs hnanos =>
      (htext beat c hc _ _ (hdocument secs nanos (Json.isWord_natCast hsecs)
        (Json.isWord_natCast (Nat.lt_trans hnanos (by decide))))).2 secs nanos hsecs hnanos
        (hgiven secs nanos) |>.1
  refine ⟨?_, ?_, ?_, ?_, ?_⟩
  · have hout := houtcome (2 ^ 63 - 2) 1999999999 (by decide) (by decide)
    obtain ⟨b, hb⟩ := hout.accepted.mpr (by decide)
    exact hb.trans (congrArg Except.ok (hout.beat b hb))
  · exact (houtcome (2 ^ 63 - 1) 1000000000 (by decide) (by decide)).beyondClock.mpr (by decide)
  · exact (houtcome (2 ^ 64 - 4) 4294967295 (by decide) (by decide)).beyondWord.mpr (by decide)
  · exact (htext beat c hc _ _ (hdocument (-1) 0 rfl rfl)).1 (-1) 0 (hgiven _ _)
      (Or.inl (by decide))
  · exact ((hjson beat c' hc' (time (2 ^ 63 - 1) 1000000000)).2 (2 ^ 63 - 1) 1000000000
      (by decide) (by decide) ⟨_, rfl, .refl _⟩).1.beyondClock.mpr (by decide)

end Beat

end AgentPulse
