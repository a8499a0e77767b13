import Stadium.Infra.KeyTable

/-!
# Who gets in

`auth.ts` from the side of a request: the key is taken from `Authorization: Bearer
<key>` or else from `X-API-Key: <key>`, and `requireRole` grants the request if one
of the key's roles is allowed. A table of keys that is written down as `API_KEYS` is
read back as it is, so that a client gets in with exactly the roles its key has in
the table (`api_keys_admit`).
-/

namespace Stadium

/-- The headers `extractApiKey` looks at. -/
structure KeyHeaders where
  authorization : Option String
  xApiKey : Option String
  deriving DecidableEq

/-- `/^Bearer\s+(.+)$/i` on a text without blanks at its end: `\s+` takes all
blanks, and what is left is the group. -/
def bearerKey (text : List Char) : Option (List Char) :=
  let afterWord := text.drop 6
  let key := afterWord.dropWhile Text.isWhiteSpace
  if (text.take 6).map Char.toLower = "bearer".toList ∧ key.length < afterWord.length ∧
      key ≠ [] ∧ key.all (!isLineTerminator ·) then some key
  else none

def extractApiKey (headers : KeyHeaders) : Option String :=
  match headers.authorization.bind fun authHeader => bearerKey (Text.trim authHeader.toList) with
  | some key => some (String.ofList key)
  | none =>
      match headers.xApiKey with
      | none => none
      | some apiKeyHeader =>
          let trimmed := Text.trim apiKeyHeader.toList
          if trimmed.isEmpty then none else some (String.ofList trimmed)

/-- How `requireRole` answers, and what it attaches to the request. -/
inductive Admission where
  /-- 401. -/
  | unauthorized
  /-- 403. -/
  | forbidden
  | granted (actorRole : Role) (apiKey : Option String)
  deriving DecidableEq

def requireRole (apiKeys : OrderedMap String (List Role)) (allowedRoles : List Role)
    (headers : KeyHeaders) : Admission :=
  let rawKey := extractApiKey headers
  match verifyApiKey apiKeys rawKey with
  | none => .unauthorized
  | some roles =>
      match roles.find? (allowedRoles.contains ·) with
      | none => .forbidden
      | some matchedRole => .granted matchedRole rawKey

/-- What stands behind a granted request. -/
theorem requireRole_granted {apiKeys : OrderedMap String (List Role)} {allowedRoles : List Role}
    {headers : KeyHeaders} {actorRole : Role} {rawKey : Option String}
    (granted : requireRole apiKeys allowedRoles headers = .granted actorRole rawKey) :
    rawKey = extractApiKey headers ∧ actorRole ∈ allowedRoles ∧
      ∃ roles, verifyApiKey apiKeys rawKey = some roles ∧ actorRole ∈ roles := by
  unfold requireRole at granted
  simp only at granted
  split at granted
  · cases granted
  · next roles verified =>
      split at granted
      · cases granted
      · next matchedRole found =>
          cases granted
          have allowed := List.find?_some found
          exact ⟨rfl, by simpa using allowed, roles, verified, List.mem_of_find?_eq_some found⟩

/-! ## Presenting a key -/

theorem all_noLineTerminator {key : String} (presentable : Presentable key) :
    key.toList.all (!isLineTerminator ·) = true := by
  rw [List.all_eq_true]
  intro c listed
  rw [presentable.oneLine c listed]
  rfl

theorem bare_of_bearer {word : List Char} (bearer : word.map Char.toLower = "bearer".toList) :
    Text.Bare word := by
  have solid : ∀ c ∈ word, Text.isWhiteSpace c = false := by
    intro c listed
    cases blank : Text.isWhiteSpace c with
    | false => rfl
    | true =>
        have letter : c.toLower ∈ "bearer".toList := bearer ▸ List.mem_map_of_mem listed
        rw [Text.toLower_blank blank] at letter
        have visible : ∀ letter ∈ "bearer".toList, Text.isWhiteSpace letter = false := by
          simp [Text.isWhiteSpace]
        exact blank.symm.trans (visible c letter)
  exact ⟨fun c first => solid c (List.mem_of_head? first),
    fun c last => solid c (List.mem_of_getLast? last)⟩

/-- The key behind the word `Bearer`, in whatever case, and some blanks. -/
theorem bearerKey_eq {key : String} (presentable : Presentable key) {word blanks : List Char}
    (bearer : word.map Char.toLower = "bearer".toList) (between : blanks ≠ [])
    (blank : ∀ c ∈ blanks, Text.isWhiteSpace c = true) :
    bearerKey (word ++ (blanks ++ key.toList)) = some key.toList := by
  have someKey : key.toList ≠ [] := by simpa using presentable.nonempty
  have six : word.length = 6 := by
    have lengths := congrArg List.length bearer
    rwa [List.length_map] at lengths
  have rest : (blanks ++ key.toList).dropWhile Text.isWhiteSpace = key.toList := by
    have kept := Text.dropWhile_bare (Text.bare_of_trim_eq presentable.trimmed).1 [] someKey
    rw [List.append_nil] at kept
    rw [List.dropWhile_append_of_pos blank, kept]
  have someBlank : 0 < blanks.length := List.length_pos_iff.mpr between
  unfold bearerKey
  simp only [← six, List.take_left, List.drop_left, rest]
  rw [if_pos]
  refine ⟨bearer, ?_, someKey, all_noLineTerminator presentable⟩
  rw [List.length_append]
  omega

theorem extractApiKey_bearer {key : String} (presentable : Presentable key)
    {word blanks before after : List Char} (bearer : word.map Char.toLower = "bearer".toList)
    (between : blanks ≠ []) (blank : ∀ c ∈ blanks ++ (before ++ after), Text.isWhiteSpace c = true)
    (xApiKey : Option String) :
    extractApiKey ⟨some (String.ofList (before ++ ((word ++ (blanks ++ key.toList)) ++ after))),
      xApiKey⟩ = some key := by
  have someKey : key.toList ≠ [] := by simpa using presentable.nonempty
  have someWord : word ≠ [] := by
    rintro rfl
    cases bearer
  have bare := (bare_of_bearer bearer).around (Text.bare_of_trim_eq presentable.trimmed) someWord
    someKey blanks
  have trimmed : Text.trim (before ++ ((word ++ (blanks ++ key.toList)) ++ after)) =
      word ++ (blanks ++ key.toList) :=
    Text.trim_padded bare (by simp [someWord]) (fun c listed => blank c (by simp [listed]))
      (fun c listed => blank c (by simp [listed]))
  have found := bearerKey_eq presentable bearer between
    fun c listed => blank c (List.mem_append_left _ listed)
  unfold extractApiKey
  simp only [Option.bind_some, String.toList_ofList, trimmed, found, String.ofList_toList]

theorem extractApiKey_xApiKey {key : String} (presentable : Presentable key)
    {before after : List Char} (blank : ∀ c ∈ before ++ after, Text.isWhiteSpace c = true) :
    extractApiKey ⟨none, some (String.ofList (before ++ (key.toList ++ after)))⟩ = some key := by
  have bareKey := Text.bare_of_trim_eq presentable.trimmed
  have someKey : key.toList ≠ [] := by simpa using presentable.nonempty
  have trimmed : Text.trim (before ++ (key.toList ++ after)) = key.toList :=
    Text.trim_padded bareKey someKey (fun c listed => blank c (List.mem_append_left _ listed))
      (fun c listed => blank c (List.mem_append_right _ listed))
  unfold extractApiKey
  simp only [Option.bind_none, String.toList_ofList, trimmed, List.isEmpty_iff, someKey, if_false,
    String.ofList_toList]

/-- The answer to a request whose key has these roles. -/
def admissionOf (roles : Option (List Role)) (allowedRoles : List Role) (rawKey : Option String) :
    Admission :=
  match roles with
  | none => .unauthorized
  | some roles =>
      match roles.find? (allowedRoles.contains ·) with
      | none => .forbidden
      | some matchedRole => .granted matchedRole rawKey

/-- **A client gets in with its own key and its roles.** When the server was started
with a table written down as `API_KEYS`, its keys are those of the table, the answer to
any headers is that of the table for the key they present, and a presentable key can be
presented in either header, with blanks around it. -/
theorem api_keys_admit (table : KeyTable) :
    (parseApiKeys (some table.render)).entries = table.entries ∧
    (∀ headers allowedRoles,
      requireRole (parseApiKeys (some table.render)) allowedRoles headers =
        admissionOf ((extractApiKey headers).bind table.rolesOf) allowedRoles
          (extractApiKey headers)) ∧
    ∀ key, Presentable key → ∀ before after : List Char,
      (∀ c ∈ before ++ after, Text.isWhiteSpace c = true) →
      extractApiKey ⟨none, some (String.ofList (before ++ (key.toList ++ after)))⟩ = some key ∧
      ∀ (word blanks : List Char) (xApiKey : Option String),
        word.map Char.toLower = "bearer".toList → blanks ≠ [] →
        (∀ c ∈ blanks, Text.isWhiteSpace c = true) →
        extractApiKey
          ⟨some (String.ofList (before ++ ((word ++ (blanks ++ key.toList)) ++ after))), xApiKey⟩ =
            some key := by
  refine ⟨table.parseApiKeys_render, ?_, ?_⟩
  · intro headers allowedRoles
    unfold requireRole admissionOf
    cases presented : extractApiKey headers with
    | none => rfl
    | some key =>
        simp only [Option.bind_some, table.verifyApiKey_render]
  · intro key presentable before after blank
    refine ⟨extractApiKey_xApiKey presentable blank, ?_⟩
    intro word blanks xApiKey bearer between blankBetween
    refine extractApiKey_bearer presentable bearer between (fun c listed => ?_) xApiKey
    rcases List.mem_append.mp listed with inside | around
    · exact blankBetween c inside
    · exact blank c around

/-- Anna runs the operations, a gate counter sends signals and reads along. -/
def demoTable : KeyTable where
  entries := [("anna-key", [.venueOpsManager]), ("counter-7", [.ingestionSource, .auditor])]
  distinct := by decide
  presentable := by
    have presentable : ∀ key ∈ ["anna-key", "counter-7"], Presentable key := by
      intro key listed
      simp only [List.mem_cons, List.not_mem_nil, or_false] at listed
      rcases listed with rfl | rfl <;>
        exact ⟨⟨by decide, by decide +kernel, by decide +kernel, by decide +kernel⟩,
          by simp [isLineTerminator], by decide +kernel⟩
    exact fun entry listed => presentable entry.1 (List.mem_map_of_mem (f := Prod.fst) listed)
  someRole := by decide

/-- The counter may post signals, Anna may not, and a stranger is not known. -/
theorem api_keys_admit_demo :
    demoTable.render = "anna-key:VENUE_OPS_MANAGER,counter-7:INGESTION_SOURCE+AUDITOR" ∧
    requireRole (parseApiKeys (some demoTable.render)) [.ingestionSource]
      ⟨some "bearer  counter-7 ", none⟩ = .granted .ingestionSource (some "counter-7") ∧
    requireRole (parseApiKeys (some demoTable.render)) [.ingestionSource]
      ⟨none, some " anna-key"⟩ = .forbidden ∧
    requireRole (parseApiKeys (some demoTable.render)) [.ingestionSource]
      ⟨none, some "counter-8"⟩ = .unauthorized := by
  obtain ⟨-, answers, -⟩ := api_keys_admit demoTable
  refine ⟨by decide +kernel, ?_, ?_, ?_⟩ <;> rw [answers] <;> decide +kernel

end Stadium
