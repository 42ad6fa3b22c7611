import Watch.Json.Number
import Watch.Proofs.Json.RoundTrip

/-!
# Tidy values

A value is tidy if its text is read as the value itself and if it may be set aside: its literals are
spelled with no more escapes than they need, each of its numerals has a number, and it does not nest
deeper than a bound. Whatever is built from tidy values the way the wire format does it is tidy.
-/

namespace Watch

namespace Numeral

theorem number?_ofInt (number : Int) (least : Int64.minValue.toInt ≤ number)
    (greatest : number < UInt64.size) :
    (ofInt number).number? = some (.integer number) := by
  by_cases negative : number < 0
  · have value : -(number.natAbs : Int) = number := by omega
    have bounded : ¬(number.natAbs = 0 ∨ number < Int64.minValue.toInt) := by omega
    rw [number?, ofInt]
    simp only [decide_eq_true negative, value, if_neg bounded]
    rfl
  · have bounded : number.natAbs < UInt64.size := by omega
    have value : (number.natAbs : Int) = number := by omega
    rw [number?, ofInt]
    simp only [decide_eq_false negative, if_pos bounded, value]
    rfl

end Numeral

namespace Json

theorem itemsNormal_eq (items : List Json) : itemsNormal items = items.map normal := by
  induction items with
  | nil => rfl
  | cons item items ih => simp [itemsNormal, ih]

theorem membersNormal_eq (members : List (Literal × Json)) :
    membersNormal members = members.map fun member => (member.1.normal, member.2.normal) := by
  induction members with
  | nil => rfl
  | cons member members ih => simp [membersNormal, ih]

theorem areItemsSound_iff {items : List Json} :
    areItemsSound items = true ↔ ∀ item ∈ items, item.isSound = true := by
  induction items with
  | nil => simp [areItemsSound]
  | cons item items ih => simp [areItemsSound, ih]

theorem areMembersSound_iff {members : List (Literal × Json)} :
    areMembersSound members = true ↔
      ∀ member ∈ members, member.1.text?.isSome = true ∧ member.2.isSound = true := by
  induction members with
  | nil => simp [areMembersSound]
  | cons member members ih => simp [areMembersSound, ih]

theorem itemsNesting_le_iff {items : List Json} {depth : Nat} :
    itemsNesting items ≤ depth ↔ ∀ item ∈ items, item.nesting ≤ depth := by
  induction items with
  | nil => simp [itemsNesting]
  | cons item items ih => simp only [itemsNesting, Nat.max_le, List.forall_mem_cons, ih]

theorem membersNesting_le_iff {members : List (Literal × Json)} {depth : Nat} :
    membersNesting members ≤ depth ↔ ∀ member ∈ members, member.2.nesting ≤ depth := by
  induction members with
  | nil => simp [membersNesting]
  | cons member members ih =>
      simp only [membersNesting, Nat.max_le, List.forall_mem_cons, ih]

/-! ## What its text gives back -/

theorem normal_ofText (text : String) : (ofText text).normal = ofText text := by
  simp [ofText, normal]

theorem normal_ofInt (number : Int) : (ofInt number).normal = ofInt number :=
  rfl

theorem normal_array {items : List Json} (same : ∀ item ∈ items, item.normal = item) :
    (array items).normal = array items := by
  have itemsEq : items.map normal = items.map id := List.map_congr_left same
  rw [normal, itemsNormal_eq, itemsEq, List.map_id]

theorem normal_ofMembers {members : List (String × Json)}
    (same : ∀ member ∈ members, member.2.normal = member.2) :
    (ofMembers members).normal = ofMembers members := by
  rw [ofMembers, normal, membersNormal_eq, List.map_map]
  congr 1
  apply List.map_congr_left
  intro member listed
  simp [same member listed]

theorem normal_tagged {name : String} {content : Json} (same : content.normal = content) :
    (tagged name content).normal = tagged name content := by
  apply normal_ofMembers
  simpa using same

/-! ## Tidy values -/

/-- A value that its text gives back, that is sound, and that nests no deeper than a bound. -/
structure Tidy (json : Json) (depth : Nat) : Prop where
  normal : json.normal = json
  sound : json.isSound = true
  nesting : json.nesting ≤ depth

namespace Tidy

variable {depth : Nat}

theorem mono {json : Json} {more : Nat} (tidy : json.Tidy depth) (le : depth ≤ more) :
    json.Tidy more :=
  ⟨tidy.normal, tidy.sound, Nat.le_trans tidy.nesting le⟩

theorem read?_write {json : Json} (tidy : json.Tidy depth) : read? json.write = some json := by
  rw [Json.read?_write, tidy.normal]

theorem null : Tidy .null depth :=
  ⟨rfl, rfl, Nat.zero_le depth⟩

theorem boolean (truth : Bool) : Tidy (.boolean truth) depth :=
  ⟨rfl, rfl, Nat.zero_le depth⟩

theorem number {numeral : Numeral} (sound : numeral.number?.isSome = true) :
    Tidy (.number numeral) depth :=
  ⟨rfl, sound, Nat.zero_le depth⟩

theorem ofText (text : String) : Tidy (.ofText text) depth := by
  refine ⟨normal_ofText text, ?_, Nat.zero_le depth⟩
  simp [Json.ofText, isSound]

theorem array {items : List Json} (tidy : ∀ item ∈ items, item.Tidy depth) :
    Tidy (.array items) (depth + 1) := by
  refine ⟨normal_array fun item member => (tidy item member).normal, ?_, ?_⟩
  · exact areItemsSound_iff.2 fun item member => (tidy item member).sound
  · exact Nat.succ_le_succ (itemsNesting_le_iff.2 fun item member => (tidy item member).nesting)

theorem ofMembers {members : List (String × Json)}
    (tidy : ∀ member ∈ members, member.2.Tidy depth) : Tidy (.ofMembers members) (depth + 1) := by
  refine ⟨normal_ofMembers fun member listed => (tidy member listed).normal, ?_, ?_⟩
  · apply areMembersSound_iff.2
    simp only [List.mem_map, forall_exists_index, and_imp]
    rintro _ member listed rfl
    exact ⟨by simp, (tidy member listed).sound⟩
  · apply Nat.succ_le_succ
    apply membersNesting_le_iff.2
    simp only [List.mem_map, forall_exists_index, and_imp]
    rintro _ member listed rfl
    exact (tidy member listed).nesting

theorem tagged {name : String} {content : Json} (tidy : content.Tidy depth) :
    Tidy (.tagged name content) (depth + 1) := by
  apply Tidy.ofMembers
  simpa using tidy

end Tidy

end Json

end Watch
