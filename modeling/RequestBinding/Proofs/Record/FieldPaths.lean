import RequestBinding.Record.Path

/-!
# Fields and their paths

Which field of a table stands at a path (`FieldTable.HasField`), and which values have the shape of
a table (`FieldTable.Fits`). In a value of the right shape a field that has been set holds what it
was set to (`HasField.part?_setPart`), and every other field holds what it held before
(`HasField.part?_setPart_of_ne`), also when both lie in flattened records. The leaves of a table
are fields of it that take values (`FieldTable.hasField_of_mem_leaves`), and no two have the same
path (`FieldTable.nodup_paths`).
-/

namespace RequestBinding

/-- The table has the field at the path. -/
inductive FieldTable.HasField : FieldTable → FieldPath → Field → Prop
  | here (f : Field) (rest : FieldTable) : HasField (.field f rest) [0] f
  | later {f : Field} {own : Field} {rest : FieldTable} {n : Nat} {path : FieldPath}
    (has : HasField rest (n :: path) f) : HasField (.field own rest) ((n + 1) :: path) f
  | inside {f : Field} {name ident : String} {inner rest : FieldTable} {path : FieldPath}
    (has : HasField inner path f) : HasField (.flattened name ident inner rest) (0 :: path) f
  | past {f : Field} {name ident : String} {inner rest : FieldTable} {n : Nat} {path : FieldPath}
    (has : HasField rest (n :: path) f) :
    HasField (.flattened name ident inner rest) ((n + 1) :: path) f

/-- The values have the shape of the table. -/
inductive FieldTable.Fits : FieldTable → List Value → Prop
  | nil : Fits .nil []
  | field {f : Field} {rest : FieldTable} {v : Value} {values : List Value}
    (fits : Fits rest values) : Fits (.field f rest) (v :: values)
  | flattened {name ident : String} {inner rest : FieldTable} {fields values : List Value}
    (fitsInner : Fits inner fields) (fits : Fits rest values) :
    Fits (.flattened name ident inner rest) (.record fields :: values)

namespace FieldTable

/-- The values that a table begins with have its shape. -/
theorem fits_zero (recs : Records) (table : FieldTable) : table.Fits (table.zero recs) := by
  induction table with
  | nil => exact .nil
  | field f rest ih => exact .field ih
  | flattened name ident inner rest ihInner ih => exact .flattened ihInner ih

/-! ## Setting a field -/

section

variable {table : FieldTable} {path other : FieldPath} {f g : Field} {fields : List Value}

theorem HasField.exists_part (has : table.HasField path f) (fits : table.Fits fields) :
    ∃ v, (Value.record fields).part? path = some v := by
  induction has generalizing fields with
  | here f rest =>
    cases fits with
    | @field _ _ v values _ => exact ⟨v, rfl⟩
  | later has ih =>
    cases fits with
    | field fits => exact ih fits
  | inside has ih =>
    cases fits with
    | flattened fitsInner _ => exact ih fitsInner
  | past has ih =>
    cases fits with
    | flattened _ fits => exact ih fits

/-- A field that has been set holds what it was set to. -/
theorem HasField.part?_setPart (has : table.HasField path f) (fits : table.Fits fields)
    (new : Value) : ((Value.record fields).setPart path new).part? path = some new := by
  induction has generalizing fields with
  | here f rest =>
    cases fits with
    | field _ => rfl
  | later has ih =>
    cases fits with
    | field fits => exact ih fits
  | inside has ih =>
    cases fits with
    | flattened fitsInner _ => exact ih fitsInner
  | past has ih =>
    cases fits with
    | flattened _ fits => exact ih fits

/-- Setting a field leaves all other fields as they are. -/
theorem HasField.part?_setPart_of_ne (has : table.HasField path f)
    (hasOther : table.HasField other g) (different : path ≠ other) (fits : table.Fits fields)
    (new : Value) :
    ((Value.record fields).setPart path new).part? other = (Value.record fields).part? other := by
  induction has generalizing fields other with
  | here f rest =>
    cases fits with
    | field fits =>
      cases hasOther with
      | here => exact absurd rfl different
      | later _ => rfl
  | @later _ _ _ n path has ih =>
    cases fits with
    | field fits =>
      cases hasOther with
      | here => rfl
      | @later _ _ _ m other hasOther =>
        have tails : n :: path ≠ m :: other := by
          intro same
          cases same
          exact different rfl
        exact ih hasOther tails fits
  | @inside _ _ _ _ _ path has ih =>
    cases fits with
    | flattened fitsInner fits =>
      cases hasOther with
      | @inside _ _ _ _ _ other hasOther =>
        have tails : path ≠ other := by
          rintro rfl
          exact different rfl
        exact ih hasOther tails fitsInner
      | past _ => rfl
  | @past _ _ _ _ _ n path has ih =>
    cases fits with
    | flattened fitsInner fits =>
      cases hasOther with
      | inside _ => rfl
      | @past _ _ _ _ _ m other hasOther =>
        have tails : n :: path ≠ m :: other := by
          intro same
          cases same
          exact different rfl
        exact ih hasOther tails fits

/-- Setting a field keeps the shape. -/
theorem HasField.fits_setPart (has : table.HasField path f) (fits : table.Fits fields)
    (new : Value) :
    ∃ set, (Value.record fields).setPart path new = .record set ∧ table.Fits set := by
  induction has generalizing fields with
  | here f rest =>
    cases fits with
    | field fits => exact ⟨_, rfl, .field fits⟩
  | later has ih =>
    cases fits with
    | @field _ _ v values fits =>
      obtain ⟨set, same, fitsSet⟩ := ih fits
      cases same
      exact ⟨_, rfl, .field fitsSet⟩
  | @inside _ _ _ _ _ path has ih =>
    cases fits with
    | @flattened _ _ _ _ fields values fitsInner fits =>
      obtain ⟨set, same, fitsSet⟩ := ih fitsInner
      refine ⟨.record set :: values, ?_, .flattened fitsSet fits⟩
      rw [← same, Value.setPart]
      rfl
  | past has ih =>
    cases fits with
    | flattened fitsInner fits =>
      obtain ⟨set, same, fitsSet⟩ := ih fits
      cases same
      exact ⟨_, rfl, .flattened fitsInner fitsSet⟩

theorem HasField.typeAt? (has : table.HasField path f) : table.typeAt? path = f.boundType? := by
  induction has with
  | here f rest => rfl
  | later has ih => exact ih
  | inside has ih => exact ih
  | past has ih => exact ih

end

/-! ## Leaves -/

theorem hasField_of_mem_leavesFrom {table : FieldTable} {lead : FieldPath} {index : Nat}
    {leaf : Leaf} (member : leaf ∈ table.leavesFrom lead index) :
    ∃ n path, leaf.path = lead ++ (index + n) :: path ∧
      table.HasField (n :: path) leaf.field ∧ leaf.field.role = .bound leaf.type := by
  induction table generalizing lead index with
  | nil => cases member
  | field f rest ih =>
    have later : leaf ∈ rest.leavesFrom lead (index + 1) →
        ∃ n path, leaf.path = lead ++ (index + n) :: path ∧
          (FieldTable.field f rest).HasField (n :: path) leaf.field ∧
            leaf.field.role = .bound leaf.type := by
      intro member
      obtain ⟨n, path, shape, has, role⟩ := ih member
      exact ⟨n + 1, path, by rw [shape, Nat.add_right_comm, Nat.add_assoc], .later has, role⟩
    unfold leavesFrom at member
    cases role : f.role with
    | bound type =>
      rw [role] at member
      rcases List.mem_cons.mp member with rfl | member
      · exact ⟨0, [], rfl, .here f rest, role⟩
      · exact later member
    | unbound type? =>
      rw [role] at member
      exact later member
  | flattened name ident inner rest ihInner ihRest =>
    unfold leavesFrom at member
    rcases List.mem_append.mp member with member | member
    · obtain ⟨n, path, shape, has, role⟩ := ihInner member
      refine ⟨0, n :: path, ?_, .inside has, role⟩
      rw [shape, List.append_assoc, Nat.zero_add]
      rfl
    · obtain ⟨n, path, shape, has, role⟩ := ihRest member
      exact ⟨n + 1, path, by rw [shape, Nat.add_right_comm, Nat.add_assoc], .past has, role⟩

/-- A leaf is a field that takes values. -/
theorem hasField_of_mem_leaves {table : FieldTable} {leaf : Leaf} (member : leaf ∈ table.leaves) :
    table.HasField leaf.path leaf.field ∧ leaf.field.role = .bound leaf.type := by
  obtain ⟨n, path, shape, has, role⟩ := hasField_of_mem_leavesFrom member
  rw [shape, List.nil_append, Nat.zero_add]
  exact ⟨has, role⟩

theorem exists_mem_leavesFrom_of_typeAt? {table : FieldTable} {path : FieldPath} {type : WireType}
    (typed : table.typeAt? path = some type) (lead : FieldPath) (index : Nat) :
    ∃ leaf ∈ table.leavesFrom lead index, ∃ n tail, path = n :: tail ∧
      leaf.path = lead ++ (index + n) :: tail ∧ leaf.type = type := by
  induction table generalizing path lead index with
  | nil => cases typed
  | field f rest ih =>
    unfold leavesFrom
    rcases path with _ | ⟨_ | n, path⟩
    · cases typed
    · rcases path with _ | ⟨m, path⟩
      · have role : f.boundType? = some type := typed
        rw [Field.boundType?] at role
        cases own : f.role with
        | bound type' =>
          rw [own] at role
          cases role
          exact ⟨_, List.mem_cons_self, 0, [], rfl, rfl, rfl⟩
        | unbound type? =>
          rw [own] at role
          cases role
      · cases typed
    · obtain ⟨leaf, member, m, tail, same, shape, rfl⟩ :=
        ih (show rest.typeAt? (n :: path) = some type from typed) lead (index + 1)
      cases same
      have later : leaf.path = lead ++ (index + (n + 1)) :: path := by
        rw [shape, Nat.add_right_comm, Nat.add_assoc]
      refine ⟨leaf, ?_, n + 1, path, rfl, later, rfl⟩
      cases f.role with
      | bound type' => exact List.mem_cons_of_mem _ member
      | unbound type? => exact member
  | flattened name ident inner rest ihInner ihRest =>
    unfold leavesFrom
    rcases path with _ | ⟨_ | n, path⟩
    · cases typed
    · obtain ⟨leaf, member, m, tail, rfl, shape, rfl⟩ :=
        ihInner (show inner.typeAt? path = some type from typed) (lead ++ [index]) 0
      refine ⟨leaf, List.mem_append_left _ member, 0, m :: tail, rfl, ?_, rfl⟩
      rw [shape, List.append_assoc, Nat.zero_add]
      rfl
    · obtain ⟨leaf, member, m, tail, same, shape, rfl⟩ :=
        ihRest (show rest.typeAt? (n :: path) = some type from typed) lead (index + 1)
      cases same
      refine ⟨leaf, List.mem_append_right _ member, n + 1, path, rfl, ?_, rfl⟩
      rw [shape, Nat.add_right_comm, Nat.add_assoc]

/-- Where a path leads to a type, there is a leaf. -/
theorem exists_mem_leaves_of_typeAt? {table : FieldTable} {path : FieldPath} {type : WireType}
    (typed : table.typeAt? path = some type) :
    ∃ leaf ∈ table.leaves, leaf.path = path ∧ leaf.type = type := by
  obtain ⟨leaf, member, n, tail, rfl, shape, same⟩ :=
    exists_mem_leavesFrom_of_typeAt? typed [] 0
  rw [List.nil_append, Nat.zero_add] at shape
  exact ⟨leaf, member, shape, same⟩

theorem nodup_pathsFrom (table : FieldTable) (lead : FieldPath) (index : Nat) :
    ((table.leavesFrom lead index).map (·.path)).Nodup := by
  induction table generalizing lead index with
  | nil => exact List.nodup_nil
  | field f rest ih =>
    unfold leavesFrom
    cases f.role with
    | bound type =>
      rw [List.map_cons, List.nodup_cons]
      refine ⟨?_, ih lead (index + 1)⟩
      intro member
      obtain ⟨leaf, present, same⟩ := List.mem_map.mp member
      obtain ⟨n, path, shape, _⟩ := hasField_of_mem_leavesFrom present
      rw [shape, List.append_cancel_left_eq, List.cons.injEq] at same
      omega
    | unbound type? => exact ih lead (index + 1)
  | flattened name ident inner rest ihInner ihRest =>
    unfold leavesFrom
    rw [List.map_append, List.nodup_append]
    refine ⟨ihInner _ 0, ihRest lead (index + 1), ?_⟩
    intro a memberA b memberB same
    obtain ⟨leafA, presentA, rfl⟩ := List.mem_map.mp memberA
    obtain ⟨leafB, presentB, rfl⟩ := List.mem_map.mp memberB
    obtain ⟨m, pathA, shapeA, _⟩ := hasField_of_mem_leavesFrom presentA
    obtain ⟨n, pathB, shapeB, _⟩ := hasField_of_mem_leavesFrom presentB
    rw [shapeA, shapeB, List.append_assoc, List.append_cancel_left_eq, List.singleton_append,
      List.cons.injEq] at same
    omega

theorem handlesFrom_eq (table : FieldTable) (lead : FieldPath) (index : Nat) :
    table.handlesFrom lead index = (table.leavesFrom lead index).filter (·.field.handled) := by
  induction table generalizing lead index with
  | nil => rfl
  | field f rest ih =>
    rw [handlesFrom, leavesFrom, ih]
    cases f.role with
    | bound type => cases handled : f.handled <;> simp [handled]
    | unbound type? => cases f.handled <;> rfl
  | flattened name ident inner rest ihInner ihRest =>
    rw [handlesFrom, leavesFrom, List.filter_append, ihInner, ihRest]

/-- The handles are the leaves whose fields have one. -/
theorem handles_eq (table : FieldTable) :
    table.handles = table.leaves.filter (·.field.handled) :=
  handlesFrom_eq table [] 0

/-- No two leaves have the same path. -/
theorem nodup_paths (table : FieldTable) : (table.leaves.map (·.path)).Nodup :=
  nodup_pathsFrom table [] 0

end FieldTable

end RequestBinding
