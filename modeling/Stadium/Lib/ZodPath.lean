import Stadium.Lib.ObjectLiteral
import Stadium.Lib.Zod

/-!
# Where an issue points

A path leads through keys and positions to a value inside another one. Once the
value at a path is replaced by one of another type, a schema that accepted the
whole reports that very path, and reports it first (`path_of_first_issue`).
-/

namespace Zod

/-- The value at a path. -/
def valueAt : Path → Json → Option Json
  | [], value => some value
  | .key name :: rest, .obj fields => (Json.field fields name).bind (valueAt rest)
  | .index position :: rest, .arr items => items[position]?.bind (valueAt rest)
  | _ :: _, _ => none

/-- The fields with the value under a name changed. -/
def changeField (name : String) (change : Json → Json) (fields : Json.Fields) : Json.Fields :=
  fields.map fun entry => if entry.1 = name then (entry.1, change entry.2) else entry

/-- A value with the one at a path replaced. -/
def replaceAt (replacement : Json) : Path → Json → Json
  | [], _ => replacement
  | .key name :: rest, .obj fields => .obj (changeField name (replaceAt replacement rest) fields)
  | .index position :: rest, .arr items => .arr (items.modify position (replaceAt replacement rest))
  | _ :: _, value => value

/-- A path goes on through a field of an object or an item of an array. -/
theorem valueAt_cons_eq_some {item : PathItem} {rest : Path} {value old : Json}
    (found : valueAt (item :: rest) value = some old) :
    (∃ name fields inner, item = .key name ∧ value = .obj fields ∧
      Json.field fields name = some inner ∧ valueAt rest inner = some old) ∨
    (∃ position items inner, item = .index position ∧ value = .arr items ∧
      items[position]? = some inner ∧ valueAt rest inner = some old) := by
  unfold valueAt at found
  split at found
  · rename_i split
    cases split
  · rename_i split
    obtain ⟨rfl, rfl⟩ := List.cons.inj split
    obtain ⟨inner, field, found⟩ := Option.bind_eq_some_iff.mp found
    exact .inl ⟨_, _, inner, rfl, rfl, field, found⟩
  · rename_i split
    obtain ⟨rfl, rfl⟩ := List.cons.inj split
    obtain ⟨inner, field, found⟩ := Option.bind_eq_some_iff.mp found
    exact .inr ⟨_, _, inner, rfl, rfl, field, found⟩
  · cases found

section

variable {name : String} {change : Json → Json} {fields : Json.Fields}

theorem field_changeField (key : String) :
    Json.field (changeField name change fields) key =
      if key = name then (Json.field fields key).map change else Json.field fields key := by
  unfold changeField Json.field
  induction fields with
  | nil => simp
  | cons entry rest ih =>
      obtain ⟨own, value⟩ := entry
      rw [List.map_cons]
      by_cases this : key = own
      · subst this
        by_cases changed : key = name
        · simp [changed]
        · simp [changed]
      · have other : (key == own) = false := beq_false_of_ne this
        by_cases changed : own = name
        · simp only [if_pos changed, List.lookup_cons, other, ih]
        · simp only [if_neg changed, List.lookup_cons, other, ih]

end

/-- An issue is reported first, at a path. -/
def ReportsFirst (issues : List Issue) (path : Path) : Prop :=
  ∃ issue others, issues = issue :: others ∧ issue.path = path

theorem ReportsFirst.append {issues : List Issue} {path : Path} (first : ReportsFirst issues path)
    (more : List Issue) : ReportsFirst (issues ++ more) path := by
  obtain ⟨issue, others, rfl, there⟩ := first
  exact ⟨issue, others ++ more, rfl, there⟩

/-- A value of another type is reported where it stands. -/
theorem reportsFirst_of_type {schema : Schema} {value : Option Json}
    (accepts : Accepts schema value) {old replacement : Json} (same : value = some old)
    (different : replacement.typeName ≠ old.typeName) (base : Path) :
    ReportsFirst (schema.issues (some replacement) base) base := by
  induction accepts with
  | absent => cases same
  | present _ ih => exact ih same
  | nonemptyString | datetime | number | boolean | literal | array | object
  | discriminatedUnion =>
      obtain rfl := Option.some.inj same
      cases replacement <;> first
        | exact absurd rfl different
        | exact ⟨_, [], rfl, rfl⟩

/-- The fields ahead of the culprit have no issue. -/
theorem reportsFirst_shapeIssues {shape : List (String × Schema)} {fields fields' : Json.Fields}
    {name : String} {base path : Path}
    (same : ∀ key, key ≠ name → Json.field fields' key = Json.field fields key)
    (accepted : ∀ entry ∈ shape, Accepts entry.2 (Json.field fields entry.1))
    (culprit : ∀ entry ∈ shape, entry.1 = name → ReportsFirst
      (entry.2.issues (Json.field fields' entry.1) (base ++ [.key entry.1])) path)
    (listed : name ∈ shape.map Prod.fst) :
    ReportsFirst (shapeIssues shape fields' base) path := by
  induction shape with
  | nil => cases listed
  | cons entry rest ih =>
      obtain ⟨key, schema⟩ := entry
      obtain ⟨own, others⟩ := List.forall_mem_cons.mp accepted
      obtain ⟨first, later⟩ := List.forall_mem_cons.mp culprit
      unfold shapeIssues
      by_cases this : key = name
      · exact (first this).append _
      · have silent : schema.issues (Json.field fields' key) (base ++ [.key key]) = [] := by
          rw [same key this]
          exact (schema.issues_eq_nil _ _).mpr own
        rw [silent, List.nil_append]
        apply ih others later
        rcases List.mem_cons.mp listed with here | there
        · exact absurd here.symm this
        · exact there

/-- The items ahead of the culprit have no issue. -/
theorem reportsFirst_items {item : Schema} {items : List Json} {position : ℕ} {inner : Json}
    {change : Json → Json} {base path : Path} (each : ∀ value ∈ items, Accepts item (some value))
    (there : items[position]? = some inner)
    (culprit : ReportsFirst (item.issues (some (change inner)) (base ++ [.index position])) path) :
    ReportsFirst (Schema.issues (.array item) (some (.arr (items.modify position change))) base)
      path := by
  obtain ⟨bound, rfl⟩ := List.getElem?_eq_some_iff.mp there
  unfold Schema.issues
  simp only
  rw [List.modify_eq_take_cons_drop bound, List.zipIdx_append, List.flatMap_append]
  have silent : ((items.take position).zipIdx.flatMap fun entry =>
      item.issues (some entry.1) (base ++ [.index entry.2])) = [] := by
    rw [List.flatMap_eq_nil_iff]
    intro entry member
    apply (item.issues_eq_nil _ _).mpr
    exact each entry.1 (List.mem_of_mem_take (List.fst_mem_of_mem_zipIdx member))
  rw [silent, List.nil_append, List.zipIdx_cons, List.flatMap_cons, List.length_take,
    min_eq_left bound.le, Nat.zero_add]
  exact culprit.append _

theorem optionIssues_of_lookup {options : List (String × Schema)} {selected : String}
    {schema : Schema} (option : options.lookup selected = some schema) (value : Json)
    (path : Path) :
    optionIssues options selected value path = some (schema.issues (some value) path) := by
  induction options with
  | nil => cases option
  | cons entry rest ih =>
      obtain ⟨name, own⟩ := entry
      unfold optionIssues
      by_cases same : name = selected
      · subst same
        rw [List.lookup_cons_self, Option.some_inj] at option
        rw [if_pos rfl, option]
      · rw [List.lookup_cons, beq_false_of_ne (Ne.symm same)] at option
        rw [if_neg same, ih option]

/-- A discriminator that is no text any more is reported itself. -/
theorem reportsFirst_discriminator {discriminator : String} {options : List (String × Schema)}
    {fields : Json.Fields} {replacement : Json}
    (changed : Json.field fields discriminator = some replacement)
    (different : replacement.typeName ≠ "string") (base : Path) :
    ReportsFirst
      (Schema.issues (.discriminatedUnion discriminator options) (some (.obj fields)) base)
      (base ++ [.key discriminator]) := by
  unfold Schema.issues
  simp only [changed]
  cases replacement <;> first
    | exact absurd rfl different
    | exact ⟨_, [], rfl, rfl⟩

/-- **The first issue points at the culprit.** Of a value that was accepted, only
the one at `path` has changed, to one of another type. -/
theorem path_of_first_issue {path : Path} {old replacement : Json}
    (different : replacement.typeName ≠ old.typeName) {schema : Schema} {value : Option Json}
    (accepts : Accepts schema value) (found : value.bind (valueAt path) = some old) (base : Path) :
    ReportsFirst (schema.issues (value.map (replaceAt replacement path)) base) (base ++ path) := by
  induction path generalizing schema value base with
  | nil =>
      cases value with
      | none => cases found
      | some json =>
          rw [List.append_nil]
          exact reportsFirst_of_type accepts found different base
  | cons item rest ih =>
      -- an optional field and a union pass the path on to what they hold
      induction accepts with
      | absent => cases found
      | present _ inner => exact inner found
      | nonemptyString | datetime | number | boolean | literal =>
          rcases valueAt_cons_eq_some found with ⟨_, _, _, -, impossible, -⟩ |
            ⟨_, _, _, -, impossible, -⟩ <;> cases impossible
      | array each _ =>
          rcases valueAt_cons_eq_some found with ⟨_, _, _, -, impossible, -⟩ |
            ⟨position, _, inner, rfl, items, there, below⟩
          · cases impossible
          · obtain rfl := Json.arr.inj items
            refine reportsFirst_items each there ?_
            have listed := each inner (List.mem_of_getElem? there)
            have reported := ih listed below (base ++ [.index position])
            rw [List.append_assoc] at reported
            exact reported
      | @object shape fields own extra _ =>
          rcases valueAt_cons_eq_some found with ⟨name, _, inner, rfl, same, there, below⟩ |
            ⟨_, _, _, -, impossible, -⟩
          · obtain rfl := Json.obj.inj same
            have known : name ∈ shape.map Prod.fst :=
              extra name (List.mem_map.mpr ⟨(name, inner), Json.mem_of_field there, rfl⟩)
            refine (reportsFirst_shapeIssues ?_ own ?_ known).append _
            · intro key other
              rw [field_changeField, if_neg other]
            · rintro ⟨key, schema⟩ listed rfl
              have accepted := own _ listed
              rw [there] at accepted
              have reported := ih accepted below (base ++ [.key key])
              rw [List.append_assoc] at reported
              rw [field_changeField, if_pos rfl, there]
              exact reported
          · cases impossible
      | @discriminatedUnion discriminator selected options fields schema named option _ inner =>
          rcases valueAt_cons_eq_some found with ⟨name, _, old', rfl, same, there, below⟩ |
            ⟨_, _, _, -, impossible, -⟩
          · obtain rfl := Json.obj.inj same
            by_cases this : name = discriminator
            · subst this
              rw [named] at there
              obtain rfl := Option.some.inj there
              cases rest with
              | nil =>
                  obtain rfl := Option.some.inj below
                  apply reportsFirst_discriminator _ different
                  rw [field_changeField, if_pos rfl, named]
                  rfl
              | cons item more =>
                  rcases valueAt_cons_eq_some below with ⟨_, _, _, -, impossible, -⟩ |
                    ⟨_, _, _, -, impossible, -⟩ <;> cases impossible
            · have kept : Json.field (changeField name (replaceAt replacement rest) fields)
                  discriminator = some (.str selected) := by
                rw [field_changeField, if_neg (Ne.symm this), named]
              have reported := inner found
              show ReportsFirst (Schema.issues (.discriminatedUnion discriminator options)
                (some (.obj (changeField name (replaceAt replacement rest) fields))) base) _
              unfold Schema.issues
              simp only [kept, optionIssues_of_lookup option, Option.getD_some]
              exact reported
          · cases impossible

end Zod
