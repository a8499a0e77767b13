import Stadium.Infra.Auth
import Stadium.Lib.Trim

/-!
# Tables of keys

The keys that `API_KEYS` can hold are the nonempty ones without a blank around them, a
comma or a colon (`writable_of_counted`). A table of such keys with their roles that is
written down as `API_KEYS` is read back as it is (`countedEntries_render`), and if all
of them fit the buffer a presented key is looked up in it (`verifyApiKey_render`).
-/

namespace Stadium

/-- A key that survives being written into `API_KEYS`. -/
structure Writable (key : String) : Prop where
  nonempty : key ≠ ""
  trimmed : Text.trim key.toList = key.toList
  noComma : ',' ∉ key.toList
  noColon : ':' ∉ key.toList

/-- `key:role1+role2`. -/
def renderEntry (entry : String × List Role) : List Char :=
  entry.1.toList ++ ':' :: ['+'].intercalate (entry.2.map (·.text.toList))

/-- Entries as `API_KEYS` has them. -/
def renderEntries (entries : List (String × List Role)) : String :=
  String.ofList ([','].intercalate (entries.map renderEntry))

/-! ## What is written is read back -/

theorem Role.text_bare (role : Role) : Text.trim role.text.toList = role.text.toList := by
  cases role <;> decide +kernel

theorem Role.text_plain (role : Role) : '+' ∉ role.text.toList ∧ ',' ∉ role.text.toList := by
  cases role <;> decide +kernel

theorem roleOf_text (role : Role) : roleOf (Text.trim role.text.toList) = some role := by
  rw [role.text_bare]
  cases role <;> decide +kernel

/-- The roles of an entry, read back from their texts. -/
theorem filterMap_roleOf (roles : List Role) :
    (roles.map (·.text.toList)).filterMap (fun text => roleOf (Text.trim text)) = roles := by
  induction roles with
  | nil => rfl
  | cons role rest ih =>
      rw [List.map_cons, List.filterMap_cons, roleOf_text role, ih]

theorem Role.text_solid (role : Role) :
    role.text.toList ≠ [] ∧ Text.Bare role.text.toList :=
  ⟨by cases role <;> decide +kernel, Text.bare_of_trim_eq role.text_bare⟩

theorem renderRoles_solid {roles : List Role} (someRole : roles ≠ []) :
    ['+'].intercalate (roles.map (·.text.toList)) ≠ [] ∧
      Text.Bare (['+'].intercalate (roles.map (·.text.toList))) := by
  refine Text.intercalate_solid ['+'] (fun text listed => ?_) (by simp [someRole])
  obtain ⟨role, -, rfl⟩ := List.mem_map.mp listed
  exact role.text_solid

section

variable {entry : String × List Role} (writable : Writable entry.1)

include writable

theorem renderEntry_solid (someRole : entry.2 ≠ []) :
    renderEntry entry ≠ [] ∧ Text.Bare (renderEntry entry) := by
  obtain ⟨someText, bareText⟩ := renderRoles_solid someRole
  refine ⟨by simp [renderEntry], ?_⟩
  exact (Text.bare_of_trim_eq writable.trimmed).around bareText
    (by simpa using writable.nonempty) someText [':']

theorem comma_notMem_renderEntry : ',' ∉ renderEntry entry := by
  unfold renderEntry
  intro listed
  rcases List.mem_append.mp listed with key | rest
  · exact writable.noComma key
  · rcases List.mem_cons.mp rest with colon | roles
    · exact absurd colon (by decide)
    · rcases Text.mem_intercalate roles with plus | ⟨text, listed, inside⟩
      · exact absurd plus (by decide)
      · obtain ⟨role, -, rfl⟩ := List.mem_map.mp listed
        exact role.text_plain.2 inside

/-- The first colon of an entry is the one behind its key. -/
theorem idxOf?_renderEntry :
    (renderEntry entry).idxOf? ':' = some entry.1.toList.length := by
  rw [List.idxOf?_eq_some_iff]
  unfold renderEntry
  refine ⟨by simp, by simp, fun j before => ?_⟩
  rw [List.getElem_append_left before]
  exact fun colon => writable.noColon (colon ▸ List.getElem_mem before)

/-- **An entry is read back.** -/
theorem parseEntry_renderEntry (someRole : entry.2 ≠ []) :
    parseEntry (renderEntry entry) = some entry := by
  obtain ⟨someText, bareText⟩ := renderRoles_solid someRole
  obtain ⟨solid, bare⟩ := renderEntry_solid writable someRole
  have key : Text.trim ((renderEntry entry).take entry.1.toList.length) = entry.1.toList := by
    unfold renderEntry
    rw [List.take_left, writable.trimmed]
  have roles : Text.trim ((renderEntry entry).drop (entry.1.toList.length + 1)) =
      ['+'].intercalate (entry.2.map (·.text.toList)) := by
    unfold renderEntry
    rw [← List.drop_drop, List.drop_left, List.drop_one, List.tail_cons, Text.trim_bare bareText]
  have apart : (['+'].intercalate (entry.2.map (·.text.toList))).splitOn '+' =
      entry.2.map (·.text.toList) := by
    refine List.splitOn_intercalate '+' (fun text listed => ?_) (by simp [someRole])
    obtain ⟨role, -, rfl⟩ := List.mem_map.mp listed
    exact role.text_plain.1
  have someKey : entry.1.toList ≠ [] := by simpa using writable.nonempty
  unfold parseEntry
  simp only [Text.trim_bare bare, idxOf?_renderEntry writable, key, roles, apart,
    filterMap_roleOf, List.isEmpty_iff, solid, someKey, someText, someRole, Bool.or_eq_true,
    or_self, if_false, String.ofList_toList]

end

/-- **Entries are read back.** -/
theorem countedEntries_render {entries : List (String × List Role)}
    (writable : ∀ entry ∈ entries, Writable entry.1)
    (someRole : ∀ entry ∈ entries, entry.2 ≠ []) :
    countedEntries (some (renderEntries entries)) = entries := by
  unfold countedEntries renderEntries
  simp only [String.toList_ofList]
  by_cases empty : entries = []
  · rw [empty]
    rfl
  · have solids : ∀ text ∈ entries.map renderEntry, text ≠ [] ∧ Text.Bare text := by
      intro text listed
      obtain ⟨entry, member, rfl⟩ := List.mem_map.mp listed
      exact renderEntry_solid (writable entry member) (someRole entry member)
    have apart : ∀ text ∈ entries.map renderEntry, ',' ∉ text := by
      intro text listed
      obtain ⟨entry, member, rfl⟩ := List.mem_map.mp listed
      exact comma_notMem_renderEntry (writable entry member)
    have someEntry : entries.map renderEntry ≠ [] := by simp [empty]
    obtain ⟨solid, bare⟩ := Text.intercalate_solid [','] solids someEntry
    have kept : ¬ ([','].intercalate (entries.map renderEntry)).isEmpty = true := by
      rwa [List.isEmpty_iff]
    rw [Text.trim_bare bare, if_neg kept, List.splitOn_intercalate ',' apart someEntry,
      List.filterMap_map]
    refine (List.filterMap_congr fun entry listed => ?_).trans List.filterMap_some
    exact parseEntry_renderEntry (writable entry listed) (someRole entry listed)

/-- Nothing but writable keys is read. -/
theorem writable_of_parseEntry {pair : List Char} {entry : String × List Role}
    (noComma : ',' ∉ pair) (parsed : parseEntry pair = some entry) : Writable entry.1 := by
  have trimmedPair : Text.trim pair ⊆ pair := Text.trim_subset pair
  unfold parseEntry at parsed
  simp only at parsed
  split at parsed
  · cases parsed
  · split at parsed
    · cases parsed
    · next separatorIndex found =>
        split at parsed
        · cases parsed
        · next some =>
            split at parsed
            · cases parsed
            · cases parsed
              have inside : Text.trim ((Text.trim pair).take separatorIndex) ⊆
                  (Text.trim pair).take separatorIndex := Text.trim_subset _
              simp only [Bool.or_eq_true, List.isEmpty_iff, not_or] at some
              refine ⟨by simpa using some.1, ?_, ?_, ?_⟩
              · rw [String.toList_ofList]
                exact Text.trim_bare (Text.bare_trim _)
              · rw [String.toList_ofList]
                exact fun listed => noComma (trimmedPair (List.mem_of_mem_take (inside listed)))
              · rw [String.toList_ofList]
                exact fun listed => Text.notMem_take_of_idxOf? found (inside listed)

theorem writable_of_counted {raw : Option String} {entry : String × List Role}
    (counted : entry ∈ countedEntries raw) : Writable entry.1 := by
  unfold countedEntries at counted
  split at counted
  · cases counted
  · split at counted
    · cases counted
    · obtain ⟨pair, listed, parsed⟩ := List.mem_filterMap.mp counted
      exact writable_of_parseEntry (Text.notMem_of_mem_splitOn listed) parsed

/-- Where every configured key fits the buffer, a key is looked up. -/
theorem verifyApiKey_of_fits {apiKeys : OrderedMap String (List Role)}
    (fits : ∀ entry ∈ apiKeys.entries, (Text.utf8Bytes entry.1).length ≤ maxKeyLength)
    {value : String} (nonempty : value ≠ "") :
    verifyApiKey apiKeys (some value) = apiKeys.get? value := by
  have passes : ∀ entry ∈ apiKeys.entries,
      (constantTimeEquals value entry.1 = true ↔ entry.1 = value) := by
    intro entry listed
    constructor
    · intro equal
      exact eq_of_constantTimeEquals (constantTimeEquals_symm equal) (fits entry listed)
    · rintro rfl
      exact constantTimeEquals_iff.mpr
        ⟨rfl, rfl, (Text.utf16Length_le entry.1).trans (fits entry listed)⟩
  show (if value = "" then none else _) = _
  rw [if_neg nonempty]
  refine (foldl_last_match (fun entry : String × List Role => constantTimeEquals value entry.1)
    Prod.snd apiKeys.entries).trans ?_
  rw [List.filter_congr fun entry listed => (Bool.eq_iff_iff.mpr
    ((passes entry listed).trans decide_eq_true_iff.symm) : _ = decide (entry.1 = value))]
  cases last : (apiKeys.entries.filter (·.1 = value)).getLast? with
  | none =>
      rw [List.getLast?_eq_none_iff, List.filter_eq_nil_iff] at last
      cases found : apiKeys.get? value with
      | none => rfl
      | some roles => exact absurd (by simp) (last _ (OrderedMap.mem_entries.mpr found))
  | some entry =>
      obtain ⟨listed, own⟩ := List.mem_filter.mp (List.mem_of_getLast? last)
      have own : entry.1 = value := by simpa using own
      subst own
      exact (OrderedMap.mem_entries.mp listed).symm

/-! ## Tables -/

/-- What `.` does not match in a regular expression. -/
def isLineTerminator (c : Char) : Bool := c ∈ ['\n', '\r', '\u2028', '\u2029']

/-- A key that survives being written into `API_KEYS` and into a header, and fits the
buffer. -/
structure Presentable (key : String) : Prop extends Writable key where
  oneLine : ∀ c ∈ key.toList, isLineTerminator c = false
  fits : (Text.utf8Bytes key).length ≤ maxKeyLength

/-- Clients' keys with their roles. -/
structure KeyTable where
  entries : List (String × List Role)
  distinct : (entries.map (·.1)).Nodup
  presentable : ∀ entry ∈ entries, Presentable entry.1
  someRole : ∀ entry ∈ entries, entry.2 ≠ []

namespace KeyTable

def rolesOf (table : KeyTable) (key : String) : Option (List Role) :=
  (table.entries.find? (·.1 = key)).map (·.2)

/-- The table as `API_KEYS` has it. -/
def render (table : KeyTable) : String := renderEntries table.entries

theorem countedEntries_render (table : KeyTable) :
    countedEntries (some table.render) = table.entries :=
  Stadium.countedEntries_render (fun entry listed => (table.presentable entry listed).toWritable)
    table.someRole

/-- **A table is read back.** -/
theorem parseApiKeys_render (table : KeyTable) :
    (parseApiKeys (some table.render)).entries = table.entries := by
  unfold parseApiKeys
  rw [table.countedEntries_render]
  exact OrderedMap.entries_ofList table.distinct

/-- Each key of a table stands in it once. -/
theorem getLast?_filter (table : KeyTable) (key : String) :
    (table.entries.filter (·.1 = key)).getLast? = table.entries.find? (·.1 = key) := by
  rw [← List.head?_filter]
  have same : ∀ a ∈ table.entries.filter (·.1 = key), ∀ b ∈ table.entries.filter (·.1 = key),
      a = b := by
    intro a listedA b listedB
    obtain ⟨memberA, keyA⟩ := List.mem_filter.mp listedA
    obtain ⟨memberB, keyB⟩ := List.mem_filter.mp listedB
    refine List.inj_on_of_nodup_map table.distinct memberA memberB ?_
    rw [of_decide_eq_true keyA, of_decide_eq_true keyB]
  cases first : (table.entries.filter (·.1 = key)).head? with
  | none =>
      rw [List.head?_eq_none_iff] at first
      rw [first]
      rfl
  | some entry =>
      have listed := List.mem_of_head? first
      have last := List.getLast?_eq_getLast_of_ne_nil (List.ne_nil_of_mem listed)
      rw [last, same _ (List.getLast_mem _) entry listed]

/-- The roles of a presented key are those of the table. -/
theorem verifyApiKey_render (table : KeyTable) (value : String) :
    verifyApiKey (parseApiKeys (some table.render)) (some value) = table.rolesOf value := by
  by_cases empty : value = ""
  · subst empty
    have absent : table.entries.find? (·.1 = "") = none := by
      rw [List.find?_eq_none]
      intro entry listed
      simpa using (table.presentable entry listed).nonempty
    unfold rolesOf
    rw [absent]
    rfl
  · rw [verifyApiKey_of_fits (fun entry listed => ?_) empty, parseApiKeys_get?]
    · unfold configuredRoles rolesOf
      rw [table.countedEntries_render, table.getLast?_filter]
    · have found := OrderedMap.mem_of_get?_ofList (OrderedMap.mem_entries.mp listed)
      rw [table.countedEntries_render] at found
      exact (table.presentable entry found).fits

end KeyTable

end Stadium
