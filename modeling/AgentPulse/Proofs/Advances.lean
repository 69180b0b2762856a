import AgentPulse.Proofs.Metrics.Board
import Mathlib.Algebra.GroupWithZero.Nat
import Mathlib.Data.List.Chain
import Mathlib.Data.List.Induction

/-!
# A meter adds up advances

Whatever totals a meter is shown, of one bus or of many, before and after a bus was started anew,
each of its counters is the sum of the advances of its own number, modulo the size of a word, and
each of its gauges is the last number that it was shown, as far as a gauge goes. Main statement:
`adds_up_advances`. One observation adds one advance (`get_observe`), so a run of them adds the
`advances`; what follows about counters are facts about such sums.
-/

namespace AgentPulse

/-! ## Advances -/

section Advances

variable {a x v : Nat} {vs ws : List Nat}

/-- How far each number is beyond the one before it, and the first beyond a given one. A number that
has gone back has not advanced. -/
def advancesFrom (a : Nat) (vs : List Nat) : List Nat :=
  List.zipWith (fun before now => now - before) (a :: vs) vs

/-- How far each number is beyond the one before it, and the first beyond zero. -/
def advances (vs : List Nat) : List Nat := advancesFrom 0 vs

theorem advancesFrom_cons (a v : Nat) (vs : List Nat) :
    advancesFrom a (v :: vs) = (v - a) :: advancesFrom v vs := rfl

theorem sum_advancesFrom_append (a : Nat) (vs ws : List Nat) :
    (advancesFrom a (vs ++ ws)).sum
      = (advancesFrom a vs).sum + (advancesFrom (vs.getLast?.getD a) ws).sum := by
  induction vs generalizing a with
  | nil => simp [advancesFrom]
  | cons v vs ih =>
    rw [List.cons_append, advancesFrom_cons, advancesFrom_cons, List.sum_cons, List.sum_cons, ih,
      List.getLast?_cons, Option.getD_some, Nat.add_assoc]

/-- A stop on the way adds nothing. -/
theorem sum_advancesFrom_between (hlow : min a v ≤ x) (hhigh : x ≤ max a v) (vs : List Nat) :
    (advancesFrom a (x :: v :: vs)).sum = (advancesFrom a (v :: vs)).sum := by
  simp only [advancesFrom_cons, List.sum_cons]
  omega

/-- Numbers that never go back have advanced by as much as the last is beyond the first. -/
theorem add_sum_advancesFrom (h : List.IsChain (· ≤ ·) (a :: vs)) :
    a + (advancesFrom a vs).sum = vs.getLast?.getD a := by
  induction vs generalizing a with
  | nil => rfl
  | cons v vs ih =>
    rw [List.isChain_cons_cons] at h
    rw [advancesFrom_cons, List.sum_cons, List.getLast?_cons, Option.getD_some, ← ih h.2,
      ← Nat.add_assoc, Nat.add_sub_cancel' h.1]

theorem sum_advances_of_isChain (h : List.IsChain (· ≤ ·) vs) :
    (advances vs).sum = vs.getLast?.getD 0 := by
  rw [← add_sum_advancesFrom (a := 0), Nat.zero_add, advances]
  cases vs with
  | nil => exact .singleton 0
  | cons v vs => exact .cons_cons (Nat.zero_le v) h

end Advances

/-! ## What totals and meters show -/

/-- Whether a number counts what has gone through a bus. The others tell what a bus holds. -/
def Totals.Part.isCount : Totals.Part → Bool
  | .published | .delivered | .dropped => true
  | .keys | .buffered | .subscriptions => false

namespace Meter

/-- One of the six numbers that a meter shows. -/
def get (m : Meter) : Totals.Part → Nat
  | .keys => m.keys
  | .buffered => m.buffered
  | .subscriptions => m.subscriptions
  | .published => m.published.toNat
  | .delivered => m.delivered.toNat
  | .dropped => m.dropped.toNat

/-- A meter is what it shows and the totals that it goes on from. -/
theorem ext_get {m m' : Meter} (h : ∀ i, m.get i = m'.get i)
    (hbaseline : m.baseline = m'.baseline) : m = m' := by
  cases m
  cases m'
  simp only [Meter.mk.injEq]
  exact ⟨h .keys, h .buffered, h .subscriptions, UInt64.toNat_inj.mp (h .published),
    UInt64.toNat_inj.mp (h .delivered), UInt64.toNat_inj.mp (h .dropped), hbaseline⟩

theorem toNat_advance (before now : UInt64) :
    (advance before now).toNat = now.toNat - before.toNat := by
  rw [advance]
  split
  next h => exact UInt64.toNat_sub_of_le _ _ h
  next h =>
    have hlt : now.toNat < before.toNat := UInt64.lt_iff_toNat_lt.mp (UInt64.not_le.mp h)
    rw [Nat.sub_eq_zero_of_le (Nat.le_of_lt hlt)]
    rfl

theorem toNat_add_advance (total before now : UInt64) :
    (total + advance before now).toNat
      = (total.toNat + (now.toNat - before.toNat)) % UInt64.size := by
  rw [UInt64.toNat_add, toNat_advance]

/-- What one observation does to one number depends on this number only. -/
theorem get_observe (m : Meter) (t : Totals) (i : Totals.Part) :
    (m.observe t).get i
      = if i.isCount then (m.get i + (t.get i - m.baseline.get i)) % UInt64.size
        else min (t.get i) gaugeMax := by
  cases i with
  | keys | buffered | subscriptions => rfl
  | published | delivered | dropped => exact toNat_add_advance ..

theorem observe_observe_self (m : Meter) (t : Totals) : (m.observe t).observe t = m.observe t := by
  refine ext_get (fun i => ?_) rfl
  rw [get_observe, get_observe m]
  split
  next => rw [show (m.observe t).baseline = t from rfl, Nat.sub_self, Nat.add_zero, Nat.mod_mod]
  next => rfl

/-! ## One observation after the other -/

/-- A meter that was shown totals one after the other. -/
def showed (ts : List Totals) : Meter := ts.foldl observe {}

/-- The last totals, all of them zero if there are none. -/
def lastOf (ts : List Totals) : Totals := ts.getLast?.getD {}

theorem showed_append (ts more : List Totals) :
    showed (ts ++ more) = more.foldl observe (showed ts) := List.foldl_append ..

theorem showed_concat (ts : List Totals) (t : Totals) :
    showed (ts ++ [t]) = (showed ts).observe t := showed_append ts [t]

theorem lastOf_concat (ts : List Totals) (t : Totals) : lastOf (ts ++ [t]) = t := by
  rw [lastOf, List.getLast?_concat, Option.getD_some]

theorem baseline_showed (ts : List Totals) : (showed ts).baseline = lastOf ts := by
  rcases List.eq_nil_or_concat ts with rfl | ⟨ts, t, rfl⟩
  · rfl
  · rw [List.concat_eq_append, showed_concat, lastOf_concat]
    rfl

theorem getLast?_map_get (ts : List Totals) (i : Totals.Part) :
    (ts.map (·.get i)).getLast?.getD 0 = (lastOf ts).get i := by
  rw [lastOf, List.getLast?_map]
  cases ts.getLast? with
  | some t => rfl
  | none => cases i <;> rfl

/-- The sum of the advances of one number. -/
def advanced (ts : List Totals) (i : Totals.Part) : Nat := (advances (ts.map (·.get i))).sum

theorem advanced_append (ts more : List Totals) (i : Totals.Part) :
    advanced (ts ++ more) i
      = advanced ts i + (advancesFrom ((lastOf ts).get i) (more.map (·.get i))).sum := by
  rw [advanced, List.map_append, advances, sum_advancesFrom_append, getLast?_map_get]
  rfl

theorem advanced_concat (ts : List Totals) (t : Totals) (i : Totals.Part) :
    advanced (ts ++ [t]) i = advanced ts i + (t.get i - (lastOf ts).get i) := by
  rw [advanced_append]
  rfl

/-- Each counter is the sum of the advances of its number, each gauge the last one shown. -/
theorem get_showed (ts : List Totals) (i : Totals.Part) :
    (showed ts).get i
      = if i.isCount then advanced ts i % UInt64.size else min ((lastOf ts).get i) gaugeMax := by
  -- From the end: the last observation adds the last advance.
  induction ts using List.reverseRecOn with
  | nil => cases i <;> rfl
  | append_singleton ts t ih =>
    rw [showed_concat, get_observe, lastOf_concat]
    split
    next hcount =>
      rw [ih, if_pos hcount, baseline_showed, advanced_concat, Nat.mod_add_mod]
    next => rfl

/-! ## What follows -/

section

variable {ts more : List Totals} {t t' : Totals} {i : Totals.Part}

theorem get_lt_of_isCount (t : Totals) (h : i.isCount = true) : t.get i < UInt64.size := by
  cases i with
  | published | delivered | dropped => exact UInt64.toNat_lt_size _
  | _ => cases h

theorem get_showed_of_isCount (h : i.isCount = true) (ts : List Totals) :
    (showed ts).get i = advanced ts i % UInt64.size := by rw [get_showed, if_pos h]

/-- Below the size of a word a counter never decreases. -/
theorem get_showed_mono (h : i.isCount = true) (hfits : advanced (ts ++ more) i < UInt64.size) :
    (showed ts).get i ≤ (showed (ts ++ more)).get i := by
  have hle : advanced ts i ≤ advanced (ts ++ more) i := by
    rw [advanced_append]
    exact Nat.le_add_right ..
  rw [get_showed_of_isCount h, get_showed_of_isCount h, Nat.mod_eq_of_lt hfits,
    Nat.mod_eq_of_lt (Nat.lt_of_le_of_lt hle hfits)]
  exact hle

/-- Totals that are shown twice in a row count once. -/
theorem showed_twice (ts more : List Totals) (t : Totals) :
    showed (ts ++ t :: t :: more) = showed (ts ++ t :: more) := by
  rw [showed_append, showed_append, List.foldl_cons, List.foldl_cons, List.foldl_cons,
    observe_observe_self]

/-- A number that has gone back is where its count goes on from. To all else it is as if it had
stayed where it was. -/
theorem showed_back (hback : t.get i ≤ (lastOf ts).get i) (hstay : t'.get i = (lastOf ts).get i)
    (hsame : ∀ j ≠ i, t'.get j = t.get j) (h : i.isCount = true) :
    (showed (ts ++ [t])).get i = (showed ts).get i ∧
    showed (ts ++ [t]) = { showed (ts ++ [t']) with baseline := t } := by
  -- Neither of the two has advanced in this number.
  have hnone : ∀ u : Totals, u.get i ≤ (lastOf ts).get i →
      (showed (ts ++ [u])).get i = (showed ts).get i := fun u hu => by
    rw [get_showed_of_isCount h, get_showed_of_isCount h, advanced_concat,
      Nat.sub_eq_zero_of_le hu, Nat.add_zero]
  refine ⟨hnone t hback, ?_⟩
  have hget : ∀ j, (showed (ts ++ [t])).get j = (showed (ts ++ [t'])).get j := fun j => by
    by_cases hj : j = i
    · rw [hj, hnone t hback, hnone t' (Nat.le_of_eq hstay)]
    · rw [get_showed, get_showed, advanced_concat, advanced_concat, lastOf_concat, lastOf_concat,
        hsame j hj]
  refine ext_get (fun j => (hget j).trans ?_) ((baseline_showed _).trans (lastOf_concat ts t))
  cases j <;> rfl

theorem lastOf_append_cons (ts more : List Totals) (t : Totals) :
    lastOf (ts ++ t :: more) = more.getLast?.getD t := by
  rw [lastOf, List.getLast?_append, List.getLast?_cons, Option.some_or, Option.getD_some]

/-- Totals on the way from some to the next add nothing. -/
theorem get_showed_between (h : i.isCount = true → min ((lastOf ts).get i) (t.get i) ≤ t'.get i ∧
      t'.get i ≤ max ((lastOf ts).get i) (t.get i)) :
    (showed (ts ++ t' :: t :: more)).get i = (showed (ts ++ t :: more)).get i := by
  rw [get_showed, get_showed]
  split
  next hcount =>
    obtain ⟨hlow, hhigh⟩ := h hcount
    rw [advanced_append, advanced_append, List.map_cons, List.map_cons,
      sum_advancesFrom_between hlow hhigh]
  next =>
    rw [lastOf_append_cons, lastOf_append_cons, List.getLast?_cons, Option.getD_some]

/-- A number that never goes back is counted exactly. -/
theorem get_showed_of_isChain (h : i.isCount = true)
    (hchain : List.IsChain (· ≤ ·) (ts.map (·.get i))) :
    (showed ts).get i = (lastOf ts).get i := by
  rw [get_showed_of_isCount h, advanced, sum_advances_of_isChain hchain, getLast?_map_get,
    Nat.mod_eq_of_lt (get_lt_of_isCount _ h)]

end

/-- A meter that a board starts under a label goes through the totals that are meant for this label,
whatever else the board is used for. When it was shown any totals, each of its counters is the sum
of the advances of its own number modulo 2⁶⁴, and each gauge is the last number shown, or 2⁶³ - 1 if
that is less.

So a counter never decreases as long as its sum is below 2⁶⁴; totals that are shown once more add
nothing; a number that has gone back moves only what its count goes on from; totals that lie between
two that follow one another change no counter, and those of one counter are enough for this one; and
for a number that never goes back the counter is its last value. -/
theorem adds_up_advances :
    (∀ (b b' : Board) (label : String), b.register label = .ok b' → ∀ run : List Board.Use,
      (b'.after run).meter? label = some (showed (Board.shown label run))) ∧
    ∀ ts : List Totals,
      (∀ i, (showed ts).get i = if i.isCount then (advances (ts.map (·.get i))).sum % 2 ^ 64
        else min ((lastOf ts).get i) (2 ^ 63 - 1)) ∧
      (∀ i more, i.isCount = true → (advances ((ts ++ more).map (·.get i))).sum < 2 ^ 64 →
        (showed ts).get i ≤ (showed (ts ++ more)).get i) ∧
      (∀ t more, showed (ts ++ t :: t :: more) = showed (ts ++ t :: more)) ∧
      (∀ i t t', i.isCount = true → t.get i ≤ (lastOf ts).get i →
        t'.get i = (lastOf ts).get i → (∀ j ≠ i, t'.get j = t.get j) →
        (showed (ts ++ [t])).get i = (showed ts).get i ∧
          showed (ts ++ [t]) = { showed (ts ++ [t']) with baseline := t }) ∧
      (∀ i t t' more,
        (i.isCount = true → min ((lastOf ts).get i) (t.get i) ≤ t'.get i ∧
          t'.get i ≤ max ((lastOf ts).get i) (t.get i)) →
        (showed (ts ++ t' :: t :: more)).get i = (showed (ts ++ t :: more)).get i) ∧
      ∀ i, i.isCount = true → List.IsChain (· ≤ ·) (ts.map (·.get i)) →
        (showed ts).get i = (lastOf ts).get i := by
  refine ⟨fun b b' label hb run => ?_, fun ts => ⟨get_showed ts, fun i more => get_showed_mono,
    fun t more => showed_twice ts more t, fun i t t' h hback hstay hsame =>
      showed_back hback hstay hsame h, fun i t t' more => get_showed_between,
    fun i => get_showed_of_isChain⟩⟩
  have hnew : b'.meter? label = some {} := by rw [(Board.register_eq_ok hb).2, if_pos rfl]
  exact Board.meter?_after hnew run

/-- A meter among others that is shown a bus that was started anew while its losses went on, and
totals on the way. -/
theorem adds_up_advances_started_anew :
    let ts : List Totals := [⟨2, 7, 3, 10, 4, 0⟩, ⟨2, 7, 3, 3, 8, 5⟩]
    let t : Totals := ⟨1, 2 ^ 64 - 1, 3, 5, 6, 9⟩
    let run : List Board.Use := [.observe "a" ⟨2, 7, 3, 10, 4, 0⟩, .register "b",
      .observe "a" ⟨2, 7, 3, 3, 8, 5⟩, .observe "b" ⟨9, 9, 9, 9, 9, 9⟩, .register "a",
      .observe "a" t]
    (∀ b, Board.empty.register "a" = .ok b → (b.after run).meter? "a" = some (showed (ts ++ [t]))) ∧
    (Board.empty.register "a").toOption.isSome = true ∧
    (showed (ts ++ [t])).published = 12 ∧ (showed (ts ++ [t])).delivered = 8 ∧
    (showed (ts ++ [t])).dropped = 9 ∧ (showed (ts ++ [t])).buffered = 2 ^ 63 - 1 ∧
    (showed ts).published ≤ (showed (ts ++ [t])).published ∧
    (showed (ts ++ [⟨8, 8, 8, 4, 7, 6⟩, t])).published = 12 ∧
    showed (ts ++ [t, t]) = showed (ts ++ [t]) ∧
    showed (ts ++ [t])
      = { showed (ts ++ [⟨1, 2 ^ 64 - 1, 3, 5, 8, 9⟩]) with baseline := t } ∧
    (showed (ts ++ [t])).dropped = t.dropped := by
  intro ts t run
  obtain ⟨hboard, hts⟩ := adds_up_advances
  obtain ⟨-, hmono, htwice, hback, hbetween, -⟩ := hts ts
  obtain ⟨hvalue, -, -, -, -, hchain⟩ := hts (ts ++ [t])
  have hpublished : (showed (ts ++ [t])).published.toNat = 12 := hvalue .published
  refine ⟨fun b hb => hboard _ b "a" hb run, by decide, UInt64.toNat_inj.mp hpublished,
    UInt64.toNat_inj.mp (hvalue .delivered), UInt64.toNat_inj.mp (hvalue .dropped),
    hvalue .buffered, ?_, ?_, htwice t [], ?_, ?_⟩
  · exact UInt64.le_iff_toNat_le.mpr (hmono .published [t] rfl (by decide))
  · refine UInt64.toNat_inj.mp ((hbetween .published t ⟨8, 8, 8, 4, 7, 6⟩ [] fun _ => ?_).trans
      hpublished)
    decide
  · exact (hback .delivered t ⟨1, 2 ^ 64 - 1, 3, 5, 8, 9⟩ rfl (by decide) rfl fun j hj => by
      cases j <;> first | rfl | exact absurd rfl hj).2
  · exact UInt64.toNat_inj.mp (hchain .dropped rfl (by decide))

end Meter

end AgentPulse
