import Stadium.Lib.Json

/-!
# Object literals

An object literal names its keys once, and a field of value `undefined` reads
like one that is absent. Two values are the same when they agree at every
item and at every key: the order in which an object lists its keys is not part
of it.
-/

namespace Json

/-! ## Fields of a literal -/

/-- The fields `{ key: value, .. }` has, without those that are undefined. -/
def literal (entries : List (String × Option Json)) : Fields :=
  entries.filterMap fun entry => entry.2.map (Prod.mk entry.1)

theorem field_of_not_mem {fields : Fields} {key : String} (absent : key ∉ fields.map Prod.fst) :
    field fields key = none := by
  apply List.lookup_eq_none_iff.mpr
  intro entry listed
  apply bne_iff_ne.mpr
  rintro rfl
  exact absent (List.mem_map_of_mem listed)

theorem field_append (fields fields' : Fields) (key : String) :
    field (fields ++ fields') key = (field fields key).or (field fields' key) :=
  List.lookup_append

/-- Keys that are kept keep their values, the others have none. -/
theorem field_filter (keep : String → Bool) (fields : Fields) (key : String) :
    field (fields.filter fun entry => keep entry.1) key =
      if keep key then field fields key else none := by
  induction fields with
  | nil => split <;> rfl
  | cons entry rest ih =>
      obtain ⟨name, value⟩ := entry
      unfold field at ih ⊢
      rw [List.filter_cons, List.lookup_cons]
      by_cases same : key = name
      · subst same
        cases kept : keep key with
        | true => simp
        | false =>
            rw [kept] at ih
            exact ih
      · have other : (key == name) = false := beq_false_of_ne same
        rw [other, ← ih]
        cases keep name with
        | true =>
            rw [if_pos rfl, List.lookup_cons, other]
        | false => rfl

theorem keys_literal {entries : List (String × Option Json)} {key : String}
    (listed : key ∈ (literal entries).map Prod.fst) : key ∈ entries.map Prod.fst := by
  obtain ⟨field, present, rfl⟩ := List.mem_map.mp listed
  obtain ⟨entry, member, kept⟩ := List.mem_filterMap.mp present
  obtain ⟨value, -, rfl⟩ := Option.map_eq_some_iff.mp kept
  exact List.mem_map_of_mem member

/-- A literal has at each of its keys the value it gives there. -/
theorem field_literal {entries : List (String × Option Json)}
    (distinct : (entries.map Prod.fst).Nodup) {key : String} {value : Option Json}
    (listed : (key, value) ∈ entries) : field (literal entries) key = value := by
  induction entries with
  | nil => cases listed
  | cons entry rest ih =>
      obtain ⟨name, held⟩ := entry
      obtain ⟨fresh, distinct⟩ := List.nodup_cons.mp distinct
      rcases List.mem_cons.mp listed with same | later
      · obtain ⟨rfl, rfl⟩ := Prod.mk.inj same
        cases value with
        | none => exact field_of_not_mem fun again => fresh (keys_literal again)
        | some value => simp [field, literal]
      · have other : (key == name) = false := by
          apply beq_false_of_ne
          intro same
          exact fresh (same ▸ List.mem_map.mpr ⟨_, later, rfl⟩)
        have found := ih distinct later
        cases held with
        | none => exact found
        | some held =>
            show List.lookup key ((name, held) :: literal rest) = value
            rw [List.lookup_cons, other]
            exact found

/-! ## The same value -/

/-- The same value, but for the order of keys. -/
inductive Same : Json → Json → Prop
  | null : Same .null .null
  | bool (value : Bool) : Same (.bool value) (.bool value)
  | num (value : ℚ) : Same (.num value) (.num value)
  | str (value : String) : Same (.str value) (.str value)
  | arr {items items' : List Json} :
      List.Forall₂ Same items items' → Same (.arr items) (.arr items')
  | obj {fields fields' : Fields} :
      (∀ key, Option.Rel Same (field fields key) (field fields' key)) →
        Same (.obj fields) (.obj fields')

theorem mem_of_field {fields : Fields} {key : String} {value : Json}
    (found : field fields key = some value) : (key, value) ∈ fields := by
  obtain ⟨before, after, split, -⟩ := List.lookup_eq_some_iff.mp found
  rw [split]
  exact List.mem_append_right before List.mem_cons_self

theorem Same.refl : (json : Json) → Same json json
  | .null => .null
  | .bool value => .bool value
  | .num value => .num value
  | .str value => .str value
  | .arr items => .arr (List.forall₂_same.mpr fun item _ => Same.refl item)
  | .obj fields => .obj fun key =>
      match found : field fields key with
      | none => .none
      | some value =>
          have : sizeOf value < sizeOf fields := by
            have entry := List.sizeOf_lt_of_mem (mem_of_field found)
            rw [Prod.mk.sizeOf_spec] at entry
            omega
          .some (Same.refl value)

theorem Same.refl_field (value : Option Json) : Option.Rel Same value value :=
  match value with
  | none => .none
  | some json => .some (Same.refl json)

/-- A literal is the same as an object that agrees with it at its keys and has no
others. -/
theorem same_literal {entries : List (String × Option Json)} {fields : Fields}
    (distinct : (entries.map Prod.fst).Nodup)
    (agree : ∀ entry ∈ entries, Option.Rel Same entry.2 (field fields entry.1))
    (covered : ∀ key ∈ fields.map Prod.fst, key ∈ entries.map Prod.fst) :
    Same (.obj (literal entries)) (.obj fields) := by
  apply Same.obj
  intro key
  by_cases listed : key ∈ entries.map Prod.fst
  · obtain ⟨⟨name, value⟩, member, rfl⟩ := List.mem_map.mp listed
    rw [field_literal distinct member]
    exact agree _ member
  · rw [field_of_not_mem fun present => listed (keys_literal present),
      field_of_not_mem fun present => listed (covered key present)]
    exact .none

end Json
