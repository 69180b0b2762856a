import AgentPulse.Record.Shape
import AgentPulse.Proofs.Json.RoundTrip

/-!
# Fields read in both ways

A field is read from a value, and from the node of its compact text. `Field.Reads` says that both
find the same in a JSON value. The members of a record are read one after the other, each as its
field (`Shape.gather_cons`, `Shape.gatherNodes_cons`).
-/

namespace AgentPulse.Record

open Json (Node Break canonical toNode canonicalMembers units)

namespace Field

variable {τ : Type}

/-- Both ways to read a field find `x` in a value: from the value with its members in order, and
from the node of its compact text. -/
structure Reads (f : Field τ) (levels : Nat) (j : Json) (x : τ) : Prop where
  ofJson : f.ofJson (canonical j) = .ok x
  ofNode : f.ofNode levels (toNode j) = .ok x

theorem text_reads (levels : Nat) (s : String) : text.Reads levels (.text s) s where
  ofJson := rfl
  ofNode := by
    show ofForm (Json.readText (units s)) = _
    rw [Json.readText_units]
    rfl

theorem wordOfNumber_natCast {limit n : Nat} (hn : n < limit) (typeName : String) :
    wordOfNumber limit typeName (.integer n) = .ok n := by
  rw [wordOfNumber, if_pos ⟨Int.natCast_nonneg n, Int.ofNat_lt.mpr hn⟩, Int.toNat_natCast]

theorem word_reads {limit : Nat} (hlimit : limit ≤ UInt64.size) (typeName : String) (levels : Nat)
    {n : Nat} (hn : n < limit) :
    (word limit typeName).Reads levels (.number (.integer n)) n := by
  have hword := wordOfNumber_natCast hn typeName
  refine ⟨hword, ?_⟩
  have hfits := Json.isWord_natCast (Nat.lt_of_lt_of_le hn hlimit)
  show (ofForm (Node.readNumber (Json.numeral n)) >>= fun v =>
    ofContent (wordOfNumber limit typeName v)) = _
  rw [Node.readNumber, Json.number?_numeral hfits]
  show ofContent (wordOfNumber limit typeName (.integer n)) = _
  rw [hword]
  rfl

theorem jsonMap_ofJson (d : Dict Json) : jsonMap.ofJson (.object d.entries) = .ok d :=
  congrArg Except.ok (Dict.ofList_entries d)

/-- Details are read off a text as the map of their members, each with its own members in order. -/
theorem jsonMap_ofNode {members : List (String × Json)} (hwhole : Json.IsWholeMembers members)
    {levels : Nat} (hdepth : Json.depthMembers members ≤ levels) :
    jsonMap.ofNode (levels + 1) (toNode (.object members))
      = .ok (Dict.ofList (canonicalMembers members)) := by
  have hread := Json.readMembers_toMemberNodes members hwhole levels hdepth Dict.empty
  show ofForm (Node.readMembers levels (Json.toMemberNodes members) none Dict.empty) = _
  rw [hread]
  rfl

end Field

/-- The name of a member is read off its units. -/
theorem ofForm_readName (name : String) :
    ofForm (Node.readName (.text (units name))) = .ok name :=
  congrArg ofForm (Json.readName_units name)

theorem Draft.set_of_ne {ι : Type} {τ : ι → Type} [DecidableEq ι] {i j : ι} (h : i ≠ j)
    (d : Draft ι τ) (x : τ i) : d.set i x j = d j := dif_neg h

namespace Shape

variable {ι : Type} {τ : ι → Type} [DecidableEq ι] {s : Shape ι τ} {d : Draft ι τ} {i : ι} {x : τ i}
  {name : String} {levels : Nat}

theorem ofNode_object (s : Shape ι τ) (levels : Nat) (members : List (Node × Node))
    (ending : Option Break) :
    s.ofNode (levels + 1) (.object members ending)
      = s.gatherNodes levels members ending Draft.blank := rfl

/-- A member that is a field not read yet is read as this field. -/
theorem gather_cons (htag : s.tag? name = some i) (hd : d i = none) {j : Json}
    (hx : (s.field i).ofJson j = .ok x) (rest : List (String × Json)) :
    s.gather ((name, j) :: rest) d = s.gather rest (d.set i x) := by
  simp only [gather, htag, hd, hx]
  rfl

theorem gatherNodes_cons (htag : s.tag? name = some i) (hd : d i = none) {n : Node}
    (hx : (s.field i).ofNode levels n = .ok x) (rest : List (Node × Node)) (ending : Option Break) :
    s.gatherNodes levels ((.text (units name), n) :: rest) ending d
      = s.gatherNodes levels rest ending (d.set i x) := by
  simp only [gatherNodes, ofForm_readName, bind, Except.bind, htag, hd,
    Option.isSome_none, Bool.false_eq_true, if_false, hx]

end Shape

end AgentPulse.Record
