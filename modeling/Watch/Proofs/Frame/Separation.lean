import Watch.Proofs.Frame.Cells

/-!
# What a store leaves alone

A store that succeeds changes the answer of a fetch for its own location and for no other, with one
exception. Static fields are kept under the name of their type, a dot and their own name, and from
such a key it cannot be told where the name of the type ends (`Frame.staticKey_eq_iff`). Two static
fields with one key are one cell, and what is stored into the one is fetched from the other. This
takes a dot in the name of a field: fields without one are always told apart.
-/

namespace Watch

namespace Frame

variable {typeName name otherType otherName : String}

theorem toList_staticKey (typeName name : String) :
    (staticKey typeName name).toList = typeName.toList ++ '.' :: name.toList := by
  change (typeName ++ "." ++ name).toList = _
  simp only [String.toList_append, List.append_assoc]
  rfl

theorem staticKey_assoc (outer inner name : String) :
    staticKey (staticKey outer inner) name = staticKey outer (staticKey inner name) := by
  apply String.toList_injective
  simp only [toList_staticKey, List.append_assoc, List.cons_append]

/-- The dot of a key is the dot of the other, or stands in the name of the field there. -/
theorem eq_or_staticKey_of_append {middle : List Char}
    (types : otherType.toList = typeName.toList ++ middle)
    (names : '.' :: name.toList = middle ++ '.' :: otherName.toList) :
    (typeName = otherType ∧ name = otherName) ∨
      ∃ inner, otherType = staticKey typeName inner ∧ name = staticKey inner otherName := by
  rcases middle with _ | ⟨dot, inner⟩
  · rw [List.append_nil] at types
    exact .inl ⟨String.toList_injective types.symm,
      String.toList_injective (List.cons.inj names).2⟩
  · rcases List.cons.inj names with ⟨rfl, namesEq⟩
    refine .inr ⟨String.ofList inner, String.toList_injective ?_, String.toList_injective ?_⟩
    · rw [toList_staticKey, String.toList_ofList, types]
    · rw [toList_staticKey, String.toList_ofList, namesEq]
      rfl

/-- Static fields have one key if they are the same, or if a part of one name goes over. -/
theorem staticKey_eq_iff :
    staticKey typeName name = staticKey otherType otherName ↔
      (typeName = otherType ∧ name = otherName) ∨
      (∃ inner, otherType = staticKey typeName inner ∧ name = staticKey inner otherName) ∨
      ∃ inner, typeName = staticKey otherType inner ∧ otherName = staticKey inner name := by
  constructor
  · intro same
    have lists := congrArg String.toList same
    rw [toList_staticKey, toList_staticKey] at lists
    rcases List.append_eq_append_iff.1 lists with ⟨middle, types, names⟩ | ⟨middle, types, names⟩
    · rcases eq_or_staticKey_of_append types names with equal | goesOver
      · exact .inl equal
      · exact .inr (.inl goesOver)
    · rcases eq_or_staticKey_of_append types names with ⟨rfl, rfl⟩ | goesOver
      · exact .inl ⟨rfl, rfl⟩
      · exact .inr (.inr goesOver)
  · rintro (⟨rfl, rfl⟩ | ⟨inner, rfl, rfl⟩ | ⟨inner, rfl, rfl⟩)
    · rfl
    · exact (staticKey_assoc _ _ _).symm
    · exact staticKey_assoc _ _ _

theorem dot_mem_staticKey (typeName name : String) : '.' ∈ (staticKey typeName name).toList := by
  rw [toList_staticKey]
  exact List.mem_append_right _ List.mem_cons_self

/-- Fields whose names have no dot have one key only if they are the same. -/
theorem staticKey_inj_of_noDot (noDot : '.' ∉ name.toList) (noDotToo : '.' ∉ otherName.toList)
    (same : staticKey typeName name = staticKey otherType otherName) :
    typeName = otherType ∧ name = otherName := by
  rcases staticKey_eq_iff.1 same with equal | ⟨inner, -, rfl⟩ | ⟨inner, -, rfl⟩
  · exact equal
  · exact absurd (dot_mem_staticKey _ _) noDot
  · exact absurd (dot_mem_staticKey _ _) noDotToo

end Frame

namespace Location

/-- Static fields that are kept under one key. -/
inductive SharesKey : Location → Location → Prop where
  | static {typeName name otherType otherName : String}
      (same : Frame.staticKey typeName name = Frame.staticKey otherType otherName) :
      SharesKey (.staticField typeName name) (.staticField otherType otherName)

variable {location other : Location}

theorem SharesKey.cell_eq (shares : location.SharesKey other) : location.cell = other.cell := by
  cases shares with
  | static same => exact congrArg Cell.static same

/-- Different locations are different cells, but for static fields with one key. -/
theorem cell_ne_of_ne (different : location ≠ other) (sharesNot : ¬location.SharesKey other) :
    location.cell ≠ other.cell := by
  intro same
  cases location with
  | staticField typeName name =>
      cases other with
      | staticField otherType otherName => exact sharesNot (.static (Cell.static.inj same))
      | _ => cases same
  | _ =>
      cases other <;> cases same
      exact different rfl

end Location

namespace Frame

theorem fetch_eq_of_sharesKey {frame : Frame} {location other : Location} {old : Value}
    (shares : location.SharesKey other) (fetched : frame.fetch location = .ok old) :
    frame.fetch other = .ok old := by
  cases shares with
  | @static typeName name otherType otherName same =>
      rw [fetch, same] at fetched
      rw [fetch]
      cases inFrame : frame.statics.get? (staticKey otherType otherName) with
      | none => simp [inFrame, found] at fetched
      | some value => simpa [inFrame, found] using fetched

/--
A store that succeeds leaves the answers for all other locations as they are, unless both locations
are static fields with one key, where the other one holds the stored value then. That does not
happen to static fields whose names have no dot.
-/
theorem fetch_of_store_ne (frame after : Frame) (location other : Location) (value : Value)
    (stored : frame.store location value = .ok after) (different : location ≠ other) :
    (¬location.SharesKey other → after.fetch other = frame.fetch other) ∧
      (location.SharesKey other → after.fetch other = .ok value) ∧
      ∀ typeName name otherType otherName,
        location = .staticField typeName name → other = .staticField otherType otherName →
          '.' ∉ name.toList → '.' ∉ otherName.toList → after.fetch other = frame.fetch other := by
  rcases eq_write_of_store stored with ⟨old, fetched, rfl⟩
  have apart : ¬location.SharesKey other →
      (frame.write location value).fetch other = frame.fetch other := fun sharesNot =>
    frame.fetch_write_of_ne value (Location.cell_ne_of_ne different sharesNot)
  refine ⟨apart, ?_, ?_⟩
  · intro shares
    rw [frame.fetch_write_of_eq value shares.cell_eq, fetch_eq_of_sharesKey shares fetched]
    rfl
  · rintro typeName name otherType otherName rfl rfl noDot noDotToo
    refine apart fun shares => ?_
    cases shares with
    | static same =>
        rcases staticKey_inj_of_noDot noDot noDotToo same with ⟨rfl, rfl⟩
        exact different rfl

/-- A static field next to one with its key, and next to one that only looks like it. -/
theorem fetch_of_store_ne_statics :
    let frame := (empty.withStatic "geo.Point" "origin" (.int 1)).withStatic "geo" "origin" (.int 5)
    let location : Location := .staticField "geo.Point" "origin"
    let twin : Location := .staticField "geo" "Point.origin"
    let other : Location := .staticField "geo" "origin"
    ∃ after, frame.store location (.int 2) = .ok after ∧
      location ≠ twin ∧ after.fetch twin = .ok (.int 2) ∧
      location ≠ other ∧ after.fetch other = frame.fetch other := by
  intro frame location twin other
  have stored : frame.store location (.int 2) = .ok (frame.write location (.int 2)) := rfl
  refine ⟨_, stored, by decide, ?_, by decide, ?_⟩
  · exact (fetch_of_store_ne frame _ location twin (.int 2) stored (by decide)).2.1 (.static rfl)
  · exact (fetch_of_store_ne frame _ location other (.int 2) stored (by decide)).2.2 _ _ _ _ rfl rfl
      (by decide) (by decide)

/-- Two different static fields, of which the one is changed by a store into the other. -/
theorem fetch_ne_of_store_dotted :
    let frame := empty.withStatic "geo.Point" "origin" (.int 1)
    let location : Location := .staticField "geo.Point" "origin"
    let other : Location := .staticField "geo" "Point.origin"
    location ≠ other ∧ frame.fetch other = .ok (.int 1) ∧
      ∃ after, frame.store location (.int 2) = .ok after ∧ after.fetch other = .ok (.int 2) := by
  intro frame location other
  exact ⟨by decide, rfl, frame.write location (.int 2), rfl, rfl⟩

end Frame

end Watch
