import Stadium.Lib.OrderedMap
import Stadium.Lib.Text

/-!
# API keys

`auth.ts`: the keys of the `API_KEYS` variable with their roles, and the check
of a presented key. The check compares buffers of 256 bytes and, beside them,
lengths in UTF-16 code units, at most 256 of them. A key that fits the buffer is
matched by itself alone (`eq_of_constantTimeEquals`).
-/

namespace Stadium

inductive Role where
  | ingestionSource
  | venueOpsManager
  | gateStaff
  | transitDispatcher
  | auditor
  deriving DecidableEq

def Role.text : Role → String
  | .ingestionSource => "INGESTION_SOURCE"
  | .venueOpsManager => "VENUE_OPS_MANAGER"
  | .gateStaff => "GATE_STAFF"
  | .transitDispatcher => "TRANSIT_DISPATCHER"
  | .auditor => "AUDITOR"

def validRoles : List Role :=
  [.ingestionSource, .venueOpsManager, .gateStaff, .transitDispatcher, .auditor]

/-- The role a text names, if it is one of `VALID_ROLES`. -/
def roleOf (value : List Char) : Option Role := validRoles.find? (·.text.toList = value)

/-- One entry of `API_KEYS`: its trimmed key with the roles recognized. An
entry without a colon, a key or a recognized role is skipped. -/
def parseEntry (pair : List Char) : Option (String × List Role) :=
  let trimmedPair := Text.trim pair
  if trimmedPair.isEmpty then none
  else
    match trimmedPair.idxOf? ':' with
    | none => none
    | some separatorIndex =>
        let key := Text.trim (trimmedPair.take separatorIndex)
        let rolesRaw := Text.trim (trimmedPair.drop (separatorIndex + 1))
        if key.isEmpty || rolesRaw.isEmpty then none
        else
          let roles := (rolesRaw.splitOn '+').filterMap fun roleCandidate =>
            roleOf (Text.trim roleCandidate)
          if roles.isEmpty then none else some (String.ofList key, roles)

/-- The entries that count, in the order in which they are written. -/
def countedEntries (raw : Option String) : List (String × List Role) :=
  match raw with
  | none => []
  | some raw =>
      if (Text.trim raw.toList).isEmpty then []
      else (raw.toList.splitOn ',').filterMap parseEntry

def parseApiKeys (raw : Option String) : OrderedMap String (List Role) :=
  .ofList (countedEntries raw)

def maxKeyLength : ℕ := 256

/-- `toFixedBuffer`: the first 256 bytes, filled up with zeros. -/
def toFixedBuffer (value : String) : List UInt8 :=
  (Text.utf8Bytes value).take maxKeyLength ++
    List.replicate (maxKeyLength - (Text.utf8Bytes value).length) 0

def constantTimeEquals (a b : String) : Bool :=
  toFixedBuffer a == toFixedBuffer b && Text.utf16Length a == Text.utf16Length b &&
    Text.utf16Length a ≤ maxKeyLength && Text.utf16Length b ≤ maxKeyLength

/-- The roles of the presented key; the last configured key that passes for it
wins. -/
def verifyApiKey (apiKeys : OrderedMap String (List Role)) (rawHeaderValue : Option String) :
    Option (List Role) :=
  match rawHeaderValue with
  | none => none
  | some value =>
      if value = "" then none
      else apiKeys.entries.foldl
        (fun matchedRoles (configuredKey, roles) =>
          if constantTimeEquals value configuredKey then some roles else matchedRoles) none

/-! ## Which keys pass for one another -/

theorem constantTimeEquals_iff {a b : String} :
    constantTimeEquals a b = true ↔
      toFixedBuffer a = toFixedBuffer b ∧ Text.utf16Length a = Text.utf16Length b ∧
        Text.utf16Length a ≤ maxKeyLength := by
  unfold constantTimeEquals
  simp only [Bool.and_eq_true, beq_iff_eq, decide_eq_true_eq]
  constructor
  · rintro ⟨⟨⟨buffers, lengths⟩, bound⟩, -⟩
    exact ⟨buffers, lengths, bound⟩
  · rintro ⟨buffers, lengths, bound⟩
    exact ⟨⟨⟨buffers, lengths⟩, bound⟩, lengths ▸ bound⟩

theorem constantTimeEquals_symm {a b : String} (equal : constantTimeEquals a b = true) :
    constantTimeEquals b a = true := by
  obtain ⟨buffers, lengths, bound⟩ := constantTimeEquals_iff.mp equal
  exact constantTimeEquals_iff.mpr ⟨buffers.symm, lengths.symm, lengths ▸ bound⟩

/-- Equal buffers: the bytes of a key that fits are the first bytes of any
that is no shorter. -/
theorem prefix_of_toFixedBuffer_eq {a b : String}
    (fits : (Text.utf8Bytes a).length ≤ maxKeyLength)
    (shorter : (Text.utf8Bytes a).length ≤ (Text.utf8Bytes b).length)
    (same : toFixedBuffer a = toFixedBuffer b) :
    Text.utf8Bytes a <+: Text.utf8Bytes b := by
  have starts := congrArg (List.take (Text.utf8Bytes a).length) same
  unfold toFixedBuffer at starts
  rw [List.take_of_length_le fits, List.take_left, List.take_append_of_le_length, List.take_take,
    min_eq_left fits] at starts
  · rw [starts]
    exact List.take_prefix _ _
  · rw [List.length_take]
    omega

/-- **A key that fits the buffer is matched by itself alone.** -/
theorem eq_of_constantTimeEquals {a b : String} (equal : constantTimeEquals a b = true)
    (fits : (Text.utf8Bytes a).length ≤ maxKeyLength) : a = b := by
  obtain ⟨buffers, lengths, -⟩ := constantTimeEquals_iff.mp equal
  rcases le_total (Text.utf8Bytes a).length (Text.utf8Bytes b).length with shorter | longer
  · have bytes := prefix_of_toFixedBuffer_eq fits shorter buffers
    exact Text.eq_of_prefix_of_utf16Length (Text.prefix_of_utf8Bytes bytes) lengths
  · have bytes := prefix_of_toFixedBuffer_eq (longer.trans fits) longer buffers.symm
    exact (Text.eq_of_prefix_of_utf16Length (Text.prefix_of_utf8Bytes bytes) lengths.symm).symm

/-! ## What a presented key authenticates -/

/-- The roles of the last counted entry whose key is exactly this text. -/
def configuredRoles (raw : Option String) (key : String) : Option (List Role) :=
  (((countedEntries raw).filter (·.1 = key)).getLast?).map (·.2)

/-- Whatever roles are returned for `value` are those configured last for
exactly this key. -/
def AuthenticatesOnlyItself (raw : Option String) (value : String) : Prop :=
  ∀ roles, verifyApiKey (parseApiKeys raw) (some value) = some roles →
    configuredRoles raw value = some roles

/-- The configured keys that pass for `value`, in the order of the map. -/
def passingKeys (raw : Option String) (value : String) : List (String × List Role) :=
  (parseApiKeys raw).entries.filter fun entry => constantTimeEquals value entry.1

theorem parseApiKeys_get? (raw : Option String) (key : String) :
    (parseApiKeys raw).get? key = configuredRoles raw key :=
  OrderedMap.get?_ofList (countedEntries raw) key

/-- The loop of `verifyApiKey` keeps the last match. -/
theorem foldl_last_match {α β : Type*} (keep : α → Bool) (value : α → β) (items : List α) :
    items.foldl (fun found item => if keep item then some (value item) else found) none =
      ((items.filter keep).getLast?).map value := by
  induction items using List.reverseRecOn with
  | nil => rfl
  | append_singleton earlier last ih =>
      rw [List.foldl_append, List.foldl_cons, List.foldl_nil, List.filter_append, ih]
      cases kept : keep last with
      | true =>
          rw [if_pos rfl, List.filter_cons_of_pos kept, List.filter_nil, List.getLast?_concat]
          rfl
      | false =>
          rw [if_neg Bool.false_ne_true, List.filter_cons_of_neg (by simp [kept]),
            List.filter_nil, List.append_nil]

theorem verifyApiKey_eq (raw : Option String) {value : String} (nonempty : value ≠ "") :
    verifyApiKey (parseApiKeys raw) (some value) =
      ((passingKeys raw value).getLast?).map (·.2) := by
  show (if value = "" then none else _) = _
  rw [if_neg nonempty]
  exact foldl_last_match (fun entry : String × List Role => constantTimeEquals value entry.1)
    Prod.snd (parseApiKeys raw).entries

end Stadium
