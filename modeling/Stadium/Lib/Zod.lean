import Stadium.Lib.Json

/-!
# Schema validation

The part of zod that checks and does not transform: strings with a least
length, date-times, bounded numbers, booleans, literals, optional fields,
arrays, strict objects and unions discriminated by a field. `issues` lists
what is wrong with a value, in the order in which zod reports it; a value is
valid when there is nothing to list. An absent field is checked as `none`.

The checks are those that zod 3.23 documents: a string, number, boolean, array
or object is refused as of the wrong type before anything else is said of it,
with the texts of zod's default error map; an object checks every field of its
shape in the order of the shape and then refuses the keys outside it; a literal
is compared as a value; an optional field may be absent but not null; a
discriminated union looks at the discriminator, refuses a value it has no
option for at the discriminator's path, and else validates the one option
selected; every issue carries the path of the value it is about. None of them
changes the value it passes on.
-/

namespace Zod

inductive PathItem where
  | key (name : String)
  | index (position : ℕ)
  deriving DecidableEq

def PathItem.text : PathItem → String
  | .key name => name
  | .index position => toString position

abbrev Path := List PathItem

/-- `path.join(".")`. -/
def Path.text (path : Path) : String := ".".intercalate (path.map PathItem.text)

structure Issue where
  path : Path
  message : String
  deriving DecidableEq

/-! ## Date-times -/

def isDigit (c : Char) : Bool := '0' ≤ c && c ≤ '9'

/-- The number two digits write. -/
def twoDigits (tens ones : Char) : Option ℕ :=
  if isDigit tens && isDigit ones then some (10 * (tens.toNat - 48) + (ones.toNat - 48)) else none

/-- The days of a month; February has 29 in the years 00, 04, .., 96 of a
century, but for the years 00 of a century that four does not divide. -/
def daysInMonth (century year month : ℕ) : ℕ :=
  if month = 2 then
    if year % 4 = 0 && (year ≠ 0 || century % 4 = 0) then 29 else 28
  else if month = 4 || month = 6 || month = 9 || month = 11 then 30
  else 31

def isDate (century year month day : ℕ) : Bool :=
  1 ≤ month && month ≤ 12 && 1 ≤ day && day ≤ daysInMonth century year month

/-- `Z`, or a sign with two digits of hours, an optional colon and two digits
of minutes. -/
def isOffset : List Char → Bool
  | ['Z'] => true
  | [sign, h, h', ':', m, m'] | [sign, h, h', m, m'] =>
      (sign == '+' || sign == '-') && [h, h', m, m'].all isDigit
  | _ => false

/-- An optional fraction of digits, then the offset. -/
def isFractionAndOffset : List Char → Bool
  | '.' :: rest => !(rest.takeWhile isDigit).isEmpty && isOffset (rest.dropWhile isDigit)
  | rest => isOffset rest

/-- The regular expression of `datetime({ offset: true })`. -/
def isDatetime (text : String) : Bool :=
  match text.toList with
  | c :: c' :: y :: y' :: '-' :: mo :: mo' :: '-' :: d :: d' :: 'T' ::
      h :: h' :: ':' :: mi :: mi' :: ':' :: s :: s' :: rest =>
      (do
        let century ← twoDigits c c'
        let year ← twoDigits y y'
        let month ← twoDigits mo mo'
        let day ← twoDigits d d'
        let hour ← twoDigits h h'
        let minute ← twoDigits mi mi'
        let second ← twoDigits s s'
        return isDate century year month day && hour ≤ 23 && minute ≤ 59 && second ≤ 59 &&
          isFractionAndOffset rest).getD false
  | _ => false

/-! ## Schemas -/

inductive NumberCheck where
  | nonnegative
  | positive

inductive Schema where
  /-- `z.string().min(1)` -/
  | nonemptyString
  /-- `z.string().datetime({ offset: true })` -/
  | datetime
  | number (check : NumberCheck)
  | boolean
  | literal (value : String)
  | optional (inner : Schema)
  | array (item : Schema)
  /-- `z.object(shape).strict()` -/
  | object (shape : List (String × Schema))
  | discriminatedUnion (discriminator : String) (options : List (String × Schema))

def NumberCheck.holds (check : NumberCheck) (value : ℚ) : Bool :=
  match check with
  | .nonnegative => 0 ≤ value
  | .positive => 0 < value

def NumberCheck.message : NumberCheck → String
  | .nonnegative => "Number must be greater than or equal to 0"
  | .positive => "Number must be greater than 0"

/-- The issue of a value of a wrong type. -/
def wrongType (expected : String) (value : Option Json) (path : Path) : Issue where
  path
  message :=
    match value with
    | none => "Required"
    | some value => s!"Expected {expected}, received {value.typeName}"

/-- `'A' | 'B'`. -/
def joinValues (values : List String) : String :=
  " | ".intercalate (values.map fun value => "'" ++ value ++ "'")

/-- The issue of keys that are not in the shape, if there are any. -/
def unrecognizedKeys (shape : List String) (fields : Json.Fields) (path : Path) : List Issue :=
  let extra := (fields.map Prod.fst).filter fun key => !shape.contains key
  if extra.isEmpty then []
  else
    let quoted := extra.map fun key => "'" ++ key ++ "'"
    [{ path, message := "Unrecognized key(s) in object: " ++ ", ".intercalate quoted }]

mutual

/-- What is wrong with a value, in the order of the reports. -/
def Schema.issues : Schema → Option Json → Path → List Issue
  | .nonemptyString, value, path =>
      match value with
      | some (.str text) =>
          if text = "" then [{ path, message := "String must contain at least 1 character(s)" }]
          else []
      | value => [wrongType "string" value path]
  | .datetime, value, path =>
      match value with
      | some (.str text) =>
          if isDatetime text then [] else [{ path, message := "Invalid datetime" }]
      | value => [wrongType "string" value path]
  | .number check, value, path =>
      match value with
      | some (.num number) =>
          if check.holds number then [] else [{ path, message := check.message }]
      | value => [wrongType "number" value path]
  | .boolean, value, path =>
      match value with
      | some (.bool _) => []
      | value => [wrongType "boolean" value path]
  | .literal expected, value, path =>
      match value with
      | some (.str text) =>
          if text = expected then []
          else [{ path, message := "Invalid literal value, expected \"" ++ expected ++ "\"" }]
      | _ => [{ path, message := "Invalid literal value, expected \"" ++ expected ++ "\"" }]
  | .optional inner, value, path =>
      match value with
      | none => []
      | some value => inner.issues (some value) path
  | .array item, value, path =>
      match value with
      | some (.arr items) =>
          items.zipIdx.flatMap fun entry =>
            item.issues (some entry.1) (path ++ [.index entry.2])
      | value => [wrongType "array" value path]
  | .object shape, value, path =>
      match value with
      | some (.obj fields) =>
          shapeIssues shape fields path ++ unrecognizedKeys (shape.map Prod.fst) fields path
      | value => [wrongType "object" value path]
  | .discriminatedUnion discriminator options, value, path =>
      match value with
      | some (.obj fields) =>
          let issues :=
            match Json.field fields discriminator with
            | some (.str selected) => optionIssues options selected (.obj fields) path
            | _ => none
          issues.getD [{
            path := path ++ [.key discriminator]
            message := "Invalid discriminator value. Expected " ++
              joinValues (options.map Prod.fst) }]
      | value => [wrongType "object" value path]

/-- The issues of the fields of a shape. -/
def shapeIssues : List (String × Schema) → Json.Fields → Path → List Issue
  | [], _, _ => []
  | (key, schema) :: rest, fields, path =>
      schema.issues (Json.field fields key) (path ++ [.key key]) ++ shapeIssues rest fields path

/-- The issues of the option that is selected, if there is one. -/
def optionIssues : List (String × Schema) → String → Json → Path → Option (List Issue)
  | [], _, _, _ => none
  | (name, schema) :: rest, selected, value, path =>
      if name = selected then some (schema.issues (some value) path)
      else optionIssues rest selected value path

end

/-! ## What passes -/

/-- The values a schema accepts. -/
inductive Accepts : Schema → Option Json → Prop
  | nonemptyString {text : String} : text ≠ "" → Accepts .nonemptyString (some (.str text))
  | datetime {text : String} : isDatetime text = true → Accepts .datetime (some (.str text))
  | number {check : NumberCheck} {value : ℚ} : check.holds value = true →
      Accepts (.number check) (some (.num value))
  | boolean {value : Bool} : Accepts .boolean (some (.bool value))
  | literal {value : String} : Accepts (.literal value) (some (.str value))
  | absent {inner : Schema} : Accepts (.optional inner) none
  | present {inner : Schema} {value : Json} : Accepts inner (some value) →
      Accepts (.optional inner) (some value)
  | array {item : Schema} {items : List Json} : (∀ value ∈ items, Accepts item (some value)) →
      Accepts (.array item) (some (.arr items))
  | object {shape : List (String × Schema)} {fields : Json.Fields} :
      (∀ entry ∈ shape, Accepts entry.2 (Json.field fields entry.1)) →
      (∀ key ∈ fields.map Prod.fst, key ∈ shape.map Prod.fst) →
      Accepts (.object shape) (some (.obj fields))
  | discriminatedUnion {discriminator selected : String} {options : List (String × Schema)}
      {fields : Json.Fields} {schema : Schema} :
      Json.field fields discriminator = some (.str selected) →
      options.lookup selected = some schema → Accepts schema (some (.obj fields)) →
      Accepts (.discriminatedUnion discriminator options) (some (.obj fields))

theorem mem_of_lookup {options : List (String × Schema)} {selected : String} {schema : Schema}
    (found : options.lookup selected = some schema) : (selected, schema) ∈ options := by
  obtain ⟨before, after, split, -⟩ := List.lookup_eq_some_iff.mp found
  rw [split]
  exact List.mem_append_right before List.mem_cons_self

theorem unrecognizedKeys_eq_nil {shape : List String} {fields : Json.Fields} {path : Path} :
    unrecognizedKeys shape fields path = [] ↔ ∀ key ∈ fields.map Prod.fst, key ∈ shape := by
  have nothing : ((fields.map Prod.fst).filter fun key => !shape.contains key) = [] ↔
      ∀ key ∈ fields.map Prod.fst, key ∈ shape := by
    rw [List.filter_eq_nil_iff]
    simp only [Bool.not_eq_true', Bool.not_eq_false, List.contains_iff_mem]
  unfold unrecognizedKeys
  rw [← nothing]
  cases (fields.map Prod.fst).filter fun key => !shape.contains key with
  | nil => exact iff_of_true rfl rfl
  | cons key rest => exact iff_of_false (List.cons_ne_nil _ _) (List.cons_ne_nil _ _)

mutual

/-- Nothing is wrong with exactly the accepted values, wherever they stand. -/
theorem Schema.issues_eq_nil : (schema : Schema) → (value : Option Json) → (path : Path) →
    (schema.issues value path = [] ↔ Accepts schema value)
  | .nonemptyString, value, path => by
      constructor
      · intro valid
        unfold Schema.issues at valid
        split at valid
        · split at valid
          · cases valid
          · rename_i text nonempty
            exact .nonemptyString nonempty
        · cases valid
      · rintro ⟨nonempty⟩
        unfold Schema.issues
        exact if_neg nonempty
  | .datetime, value, path => by
      constructor
      · intro valid
        unfold Schema.issues at valid
        split at valid
        · split at valid
          · rename_i text datetime
            exact .datetime datetime
          · cases valid
        · cases valid
      · rintro ⟨⟩
        rename_i text datetime
        unfold Schema.issues
        exact if_pos datetime
  | .number check, value, path => by
      constructor
      · intro valid
        unfold Schema.issues at valid
        split at valid
        · split at valid
          · rename_i number holds
            exact .number holds
          · cases valid
        · cases valid
      · rintro ⟨⟩
        rename_i number holds
        unfold Schema.issues
        exact if_pos holds
  | .boolean, value, path => by
      constructor
      · intro valid
        unfold Schema.issues at valid
        split at valid
        · exact .boolean
        · cases valid
      · rintro ⟨⟩
        rfl
  | .literal expected, value, path => by
      constructor
      · intro valid
        unfold Schema.issues at valid
        split at valid
        · split at valid
          · rename_i text same
            exact same ▸ .literal
          · cases valid
        · cases valid
      · rintro ⟨⟩
        unfold Schema.issues
        exact if_pos rfl
  | .optional inner, value, path => by
      cases value with
      | none => exact iff_of_true rfl .absent
      | some value =>
          show inner.issues (some value) path = [] ↔ _
          rw [inner.issues_eq_nil (some value) path]
          constructor
          · exact .present
          · rintro ⟨⟩
            assumption
  | .array item, value, path => by
      constructor
      · intro valid
        unfold Schema.issues at valid
        split at valid
        · rename_i items
          apply Accepts.array
          intro value member
          obtain ⟨position, found⟩ := List.mem_iff_getElem?.mp member
          have listed : (value, position) ∈ items.zipIdx :=
            List.mem_zipIdx_iff_getElem?.mpr found
          exact (item.issues_eq_nil (some value) _).mp (List.flatMap_eq_nil_iff.mp valid _ listed)
        · cases valid
      · rintro ⟨⟩
        rename_i items each
        show (items.zipIdx.flatMap fun entry => item.issues (some entry.1) _) = []
        rw [List.flatMap_eq_nil_iff]
        intro entry member
        exact (item.issues_eq_nil (some entry.1) _).mpr
          (each entry.1 (List.fst_mem_of_mem_zipIdx member))
  | .object shape, value, path => by
      constructor
      · intro valid
        unfold Schema.issues at valid
        split at valid
        · rename_i fields
          obtain ⟨own, extra⟩ := List.append_eq_nil_iff.mp valid
          exact .object ((shapeIssues_eq_nil shape fields path).mp own)
            (unrecognizedKeys_eq_nil.mp extra)
        · cases valid
      · rintro ⟨⟩
        rename_i fields own extra
        exact List.append_eq_nil_iff.mpr ⟨(shapeIssues_eq_nil shape fields path).mpr own,
          unrecognizedKeys_eq_nil.mpr extra⟩
  | .discriminatedUnion discriminator options, value, path => by
      constructor
      · intro valid
        unfold Schema.issues at valid
        split at valid
        · rename_i fields
          split at valid
          · rename_i selected found
            cases checked : optionIssues options selected (.obj fields) path with
            | none =>
                rw [checked] at valid
                cases valid
            | some issues =>
                rw [checked, Option.getD_some] at valid
                rw [valid] at checked
                obtain ⟨schema, option, accepts⟩ :=
                  (optionIssues_eq_nil options selected (.obj fields) path).mp checked
                exact .discriminatedUnion found option accepts
          · cases valid
        · cases valid
      · rintro ⟨⟩
        rename_i selected fields schema accepts found option
        have checked := (optionIssues_eq_nil options selected (.obj fields) path).mpr
          ⟨schema, option, accepts⟩
        unfold Schema.issues
        simp only [found, checked, Option.getD_some]

theorem shapeIssues_eq_nil : (shape : List (String × Schema)) → (fields : Json.Fields) →
    (path : Path) → (shapeIssues shape fields path = [] ↔
      ∀ entry ∈ shape, Accepts entry.2 (Json.field fields entry.1))
  | [], _, _ => iff_of_true rfl (fun _ impossible => by cases impossible)
  | (key, schema) :: rest, fields, path => by
      rw [List.forall_mem_cons, ← shapeIssues_eq_nil rest fields path,
        ← schema.issues_eq_nil (Json.field fields key) (path ++ [.key key])]
      exact List.append_eq_nil_iff

theorem optionIssues_eq_nil : (options : List (String × Schema)) → (selected : String) →
    (value : Json) → (path : Path) →
    (optionIssues options selected value path = some [] ↔
      ∃ schema, options.lookup selected = some schema ∧ Accepts schema (some value))
  | [], _, _, _ => by simp [optionIssues]
  | (name, schema) :: rest, selected, value, path => by
      unfold optionIssues
      by_cases same : name = selected
      · subst same
        rw [if_pos rfl, List.lookup_cons_self, Option.some_inj,
          schema.issues_eq_nil (some value) path]
        simp
      · rw [if_neg same, optionIssues_eq_nil rest selected value path, List.lookup_cons,
          beq_false_of_ne (Ne.symm same)]

end

end Zod
