import Stadium.Infra.RedisClient
import Stadium.Lib.KeyedStore
import Stadium.Lib.Text

/-!
# The two Redis wrappers

`RedisClientWrapper` of `redis-client.ts` keeps the cooldowns, the source
timers and the rejections in the one key space of a Redis server, where
entries vanish on their own. `MockRedisClientWrapper` of `server.ts` keeps
them in a map each, and drops an expired entry when it reads it.

The ideal is a map keyed by the pair of ids. Both wrappers join the two ids
with a colon and escape nothing: so they are the ideal as long as no two of the
pairs used are joined to the same text (`wrappers_are_ideal`), for instance
when no gate id and no source type contains a colon
(`distinctKeys_of_plain_ids`).
-/

namespace Stadium

/-- The operations with a time to live. -/
inductive RedisOp where
  | getLastNudgeAt (fanId : FanId) (gateId : GateId)
  | setLastNudgeAt (fanId : FanId) (gateId : GateId) (generatedAt cooldownPeriodMs : ℤ)
  | touchSource (sourceType gateOrRouteId : String) (timeoutMs : ℤ)
  | isSourceDegraded (sourceType gateOrRouteId : String)
  | recordRejection (routeId : RouteId) (alternativeGateId : GateId) (suppressionMs : ℤ)
  | isRejectionSuppressed (routeId : RouteId) (alternativeGateId : GateId)

inductive RedisAnswer where
  | settled
  | date (value : Option ℤ)
  | flag (value : Bool)
  deriving DecidableEq

/-- The pair of ids an operation is about. -/
inductive RedisPair where
  | cooldown (fanId : FanId) (gateId : GateId)
  | source (sourceType gateOrRouteId : String)
  | rejection (routeId : RouteId) (alternativeGateId : GateId)
  deriving DecidableEq

def RedisOp.pair : RedisOp → RedisPair
  | .getLastNudgeAt fanId gateId | .setLastNudgeAt fanId gateId .. => .cooldown fanId gateId
  | .touchSource sourceType id .. | .isSourceDegraded sourceType id => .source sourceType id
  | .recordRejection routeId gateId .. | .isRejectionSuppressed routeId gateId =>
      .rejection routeId gateId

/-! ## The client -/

namespace RedisClientWrapper

/-- The key space of the server. -/
abbrev Server := ExpiringMap String String ℤ

def cooldownKey (fanId : FanId) (gateId : GateId) : String := s!"cooldown:{gateId}:{fanId}"

def degradedSourceKey (sourceType gateOrRouteId : String) : String :=
  s!"degraded-source:{sourceType}:{gateOrRouteId}"

def rejectionKey (routeId : RouteId) (alternativeGateId : GateId) : String :=
  s!"redirection-rejection:{routeId}:{alternativeGateId}"

/-- One operation at time `now`. -/
def call (server : Server) (now : ℤ) : RedisOp → Server × RedisAnswer
  | .getLastNudgeAt fanId gateId =>
      (server, .date ((server.read? (cooldownKey fanId gateId) now).bind IsoDate.parse))
  | .setLastNudgeAt fanId gateId generatedAt cooldownPeriodMs =>
      (server.write (cooldownKey fanId gateId) (IsoDate.toISOString generatedAt) now
        cooldownPeriodMs, .settled)
  | .touchSource sourceType id timeoutMs =>
      (server.write (degradedSourceKey sourceType id) "1" now timeoutMs, .settled)
  | .isSourceDegraded sourceType id =>
      (server, .flag (server.read? (degradedSourceKey sourceType id) now).isNone)
  | .recordRejection routeId gateId suppressionMs =>
      (server.write (rejectionKey routeId gateId) "1" now suppressionMs, .settled)
  | .isRejectionSuppressed routeId gateId =>
      (server, .flag (server.read? (rejectionKey routeId gateId) now).isSome)

def keyOf : RedisPair → String
  | .cooldown fanId gateId => cooldownKey fanId gateId
  | .source sourceType id => degradedSourceKey sourceType id
  | .rejection routeId gateId => rejectionKey routeId gateId

end RedisClientWrapper

/-! ## The stand-in -/

namespace MockRedisClientWrapper

inductive StoreName where
  | cooldownStore
  | degradedSourceStore
  | rejectionStore
  deriving DecidableEq

abbrev Stores := StoreName → ExpiringMap String String ℤ

def getIfNotExpired (stores : Stores) (name : StoreName) (key : String) (now : ℤ) :
    Stores × Option String :=
  match (stores name).get? key with
  | none => (stores, none)
  | some entry =>
      if entry.expiresAt ≤ now then
        (Function.update stores name ((stores name).erase key), none)
      else (stores, some entry.value)

def put (stores : Stores) (name : StoreName) (key value : String) (now ttl : ℤ) : Stores :=
  Function.update stores name ((stores name).write key value now ttl)

/-- One operation at time `now`. -/
def call (stores : Stores) (now : ℤ) : RedisOp → Stores × RedisAnswer
  | .getLastNudgeAt fanId gateId =>
      let (stores, value) := getIfNotExpired stores .cooldownStore s!"{fanId}:{gateId}" now
      (stores, .date (value.bind IsoDate.parse))
  | .setLastNudgeAt fanId gateId generatedAt cooldownPeriodMs =>
      (put stores .cooldownStore s!"{fanId}:{gateId}" (IsoDate.toISOString generatedAt) now
        cooldownPeriodMs, .settled)
  | .touchSource sourceType id timeoutMs =>
      (put stores .degradedSourceStore s!"{sourceType}:{id}" "1" now timeoutMs, .settled)
  | .isSourceDegraded sourceType id =>
      let (stores, value) := getIfNotExpired stores .degradedSourceStore s!"{sourceType}:{id}" now
      (stores, .flag value.isNone)
  | .recordRejection routeId gateId suppressionMs =>
      (put stores .rejectionStore s!"{routeId}:{gateId}" "1" now suppressionMs, .settled)
  | .isRejectionSuppressed routeId gateId =>
      let (stores, value) := getIfNotExpired stores .rejectionStore s!"{routeId}:{gateId}" now
      (stores, .flag value.isSome)

def keyOf : RedisPair → StoreName × String
  | .cooldown fanId gateId => (.cooldownStore, s!"{fanId}:{gateId}")
  | .source sourceType id => (.degradedSourceStore, s!"{sourceType}:{id}")
  | .rejection routeId gateId => (.rejectionStore, s!"{routeId}:{gateId}")

end MockRedisClientWrapper

/-! ## The ideal -/

/-- What is kept under a pair: the time of a nudge, or a mark. -/
inductive RedisValue where
  | date (instant : ℤ)
  | mark

/-- The text both wrappers store. -/
def RedisValue.text : RedisValue → String
  | .date instant => IsoDate.toISOString instant
  | .mark => "1"

def RedisValue.instant? : RedisValue → Option ℤ
  | .date instant => some instant
  | .mark => none

theorem RedisValue.parse_text (value : RedisValue) : IsoDate.parse value.text = value.instant? := by
  cases value with
  | date instant => exact IsoDate.parse_toISOString instant
  | mark => decide +kernel

namespace IdealRedis

/-- A map keyed by the pair of ids. -/
abbrev Pairs := RedisPair → Option (ExpiringEntry RedisValue ℤ)

def read? (pairs : Pairs) (pair : RedisPair) (now : ℤ) : Option RedisValue :=
  (pairs pair).bind fun entry => if now < entry.expiresAt then some entry.value else none

def write (pairs : Pairs) (pair : RedisPair) (value : RedisValue) (now ttl : ℤ) : Pairs :=
  Function.update pairs pair (some ⟨value, now + ttl⟩)

/-- One operation at time `now`. -/
def call (pairs : Pairs) (now : ℤ) : RedisOp → Pairs × RedisAnswer
  | .getLastNudgeAt fanId gateId =>
      (pairs, .date ((read? pairs (.cooldown fanId gateId) now).bind (·.instant?)))
  | .setLastNudgeAt fanId gateId generatedAt cooldownPeriodMs =>
      (write pairs (.cooldown fanId gateId) (.date generatedAt) now cooldownPeriodMs, .settled)
  | .touchSource sourceType id timeoutMs =>
      (write pairs (.source sourceType id) .mark now timeoutMs, .settled)
  | .isSourceDegraded sourceType id =>
      (pairs, .flag (read? pairs (.source sourceType id) now).isNone)
  | .recordRejection routeId gateId suppressionMs =>
      (write pairs (.rejection routeId gateId) .mark now suppressionMs, .settled)
  | .isRejectionSuppressed routeId gateId =>
      (pairs, .flag (read? pairs (.rejection routeId gateId) now).isSome)

end IdealRedis

/-! ## All three as clients of a keyed store -/

/-- The command of an operation. -/
def RedisOp.request : RedisOp → StoreCommand RedisPair RedisValue ℤ
  | .getLastNudgeAt fanId gateId => .read (.cooldown fanId gateId)
  | .setLastNudgeAt fanId gateId generatedAt cooldownPeriodMs =>
      .write (.cooldown fanId gateId) (.date generatedAt) cooldownPeriodMs
  | .touchSource sourceType id timeoutMs => .write (.source sourceType id) .mark timeoutMs
  | .isSourceDegraded sourceType id => .read (.source sourceType id)
  | .recordRejection routeId gateId suppressionMs =>
      .write (.rejection routeId gateId) .mark suppressionMs
  | .isRejectionSuppressed routeId gateId => .read (.rejection routeId gateId)

/-- The answer made of the value read, of which `instant?` is the time. -/
def RedisOp.reply {ω : Type} (instant? : ω → Option ℤ) (op : RedisOp) (value : Option ω) :
    RedisAnswer :=
  match op with
  | .getLastNudgeAt .. => .date (value.bind instant?)
  | .isSourceDegraded .. => .flag value.isNone
  | .isRejectionSuppressed .. => .flag value.isSome
  | .setLastNudgeAt .. | .touchSource .. | .recordRejection .. => .settled

theorem RedisOp.request_index (op : RedisOp) : op.request.index = op.pair := by
  cases op <;> rfl

theorem RedisOp.reply_text (op : RedisOp) (value : Option RedisValue) :
    op.reply IsoDate.parse (value.map RedisValue.text) = op.reply RedisValue.instant? value := by
  cases op <;> cases value <;>
    simp only [RedisOp.reply, Option.map_some, Option.map_none, Option.bind_some,
      Option.bind_none, RedisValue.parse_text, Option.isNone_some, Option.isSome_some,
      Option.isNone_none, Option.isSome_none]

def RedisClientWrapper.client :
    StoreClient RedisClientWrapper.Server String String RedisPair RedisValue ℤ where
  store := .ofOrderedMap
  place := RedisClientWrapper.keyOf
  encode := RedisValue.text
  evicts := false

def MockRedisClientWrapper.client :
    StoreClient MockRedisClientWrapper.Stores (MockRedisClientWrapper.StoreName × String) String
      RedisPair RedisValue ℤ where
  store := .ofFamily
  place := MockRedisClientWrapper.keyOf
  encode := RedisValue.text
  evicts := true

theorem RedisClientWrapper.read_eq (server : RedisClientWrapper.Server) (now : ℤ)
    (pair : RedisPair) :
    RedisClientWrapper.client.read server now pair =
      (server, server.read? (RedisClientWrapper.keyOf pair) now) :=
  RedisClientWrapper.client.read_of_keeps rfl server now pair

theorem RedisClientWrapper.call_eq_serve (server : RedisClientWrapper.Server) (now : ℤ)
    (op : RedisOp) :
    RedisClientWrapper.call server now op =
      RedisClientWrapper.client.serve RedisOp.request (RedisOp.reply IsoDate.parse) server now
        op := by
  cases op with
  | setLastNudgeAt | touchSource | recordRejection => rfl
  | getLastNudgeAt | isSourceDegraded | isRejectionSuppressed =>
      unfold StoreClient.serve
      simp only [RedisOp.request, StoreClient.step, RedisClientWrapper.read_eq]
      rfl

theorem MockRedisClientWrapper.read_eq (stores : MockRedisClientWrapper.Stores) (now : ℤ)
    (pair : RedisPair) :
    MockRedisClientWrapper.client.read stores now pair =
      MockRedisClientWrapper.getIfNotExpired stores (MockRedisClientWrapper.keyOf pair).1
        (MockRedisClientWrapper.keyOf pair).2 now := by
  unfold MockRedisClientWrapper.getIfNotExpired
  rcases MockRedisClientWrapper.client.read_eq stores now pair with
    ⟨stored, read⟩ | ⟨entry, stored, ⟨alive, read⟩ | ⟨expired, read⟩⟩
  all_goals
    have found : (stores (MockRedisClientWrapper.keyOf pair).1).get?
      (MockRedisClientWrapper.keyOf pair).2 = _ := stored
    rw [read, found]
  · exact (if_neg (not_le.mpr alive)).symm
  · exact (if_pos expired).symm

theorem MockRedisClientWrapper.call_eq_serve (stores : MockRedisClientWrapper.Stores) (now : ℤ)
    (op : RedisOp) :
    MockRedisClientWrapper.call stores now op =
      MockRedisClientWrapper.client.serve RedisOp.request (RedisOp.reply IsoDate.parse) stores now
        op := by
  cases op with
  | setLastNudgeAt | touchSource | recordRejection => rfl
  | getLastNudgeAt | isSourceDegraded | isRejectionSuppressed =>
      unfold StoreClient.serve
      simp only [RedisOp.request, StoreClient.step, MockRedisClientWrapper.read_eq]
      rfl

theorem IdealRedis.read_eq (pairs : IdealRedis.Pairs) (now : ℤ) (pair : RedisPair) :
    (StoreClient.ideal RedisPair RedisValue ℤ).read pairs now pair =
      (pairs, IdealRedis.read? pairs pair now) :=
  (StoreClient.ideal RedisPair RedisValue ℤ).read_of_keeps rfl pairs now pair

theorem IdealRedis.call_eq_serve (pairs : IdealRedis.Pairs) (now : ℤ) (op : RedisOp) :
    IdealRedis.call pairs now op =
      (StoreClient.ideal RedisPair RedisValue ℤ).serve RedisOp.request
        (RedisOp.reply RedisValue.instant?) pairs now op := by
  cases op with
  | setLastNudgeAt | touchSource | recordRejection => rfl
  | getLastNudgeAt | isSourceDegraded | isRejectionSuppressed =>
      unfold StoreClient.serve
      simp only [RedisOp.request, StoreClient.step, IdealRedis.read_eq]
      rfl

/-! ## Sequences of operations -/

/-- The operations with the client's answers, on an empty server. -/
def RedisClientWrapper.run (ops : List (ℤ × RedisOp)) : List (RedisOp × RedisAnswer) :=
  transcript RedisClientWrapper.call ∅ ops

/-- The operations with the stand-in's answers, from empty stores. -/
def MockRedisClientWrapper.run (ops : List (ℤ × RedisOp)) : List (RedisOp × RedisAnswer) :=
  transcript MockRedisClientWrapper.call (fun _ => ∅) ops

/-- The operations with the answers of the map keyed by pairs. -/
def IdealRedis.run (ops : List (ℤ × RedisOp)) : List (RedisOp × RedisAnswer) :=
  transcript IdealRedis.call (fun _ => none) ops

/-- Both wrappers answer as the map keyed by pairs, and answer the operations
on a pair as if there were no others. -/
structure WrappersIdeal (ops : List (ℤ × RedisOp)) : Prop where
  client : RedisClientWrapper.run ops = IdealRedis.run ops
  standIn : MockRedisClientWrapper.run ops = IdealRedis.run ops
  client_pairs : ∀ pair, (RedisClientWrapper.run ops).filter (·.1.pair = pair) =
    RedisClientWrapper.run (ops.filter (·.2.pair = pair))
  standIn_pairs : ∀ pair, (MockRedisClientWrapper.run ops).filter (·.1.pair = pair) =
    MockRedisClientWrapper.run (ops.filter (·.2.pair = pair))

/-- No two pairs of the sequence are joined to the same text, by the client or
by the stand-in. -/
def DistinctKeys (ops : List (ℤ × RedisOp)) : Prop :=
  ∀ op ∈ ops, ∀ op' ∈ ops,
    RedisClientWrapper.keyOf op.2.pair = RedisClientWrapper.keyOf op'.2.pair ∨
      MockRedisClientWrapper.keyOf op.2.pair = MockRedisClientWrapper.keyOf op'.2.pair →
    op.2.pair = op'.2.pair

/-- The pairs a sequence is about. -/
def pairsOf (ops : List (ℤ × RedisOp)) : Set RedisPair := { pair | ∃ op ∈ ops, op.2.pair = pair }

theorem mem_pairsOf {ops : List (ℤ × RedisOp)} {op : ℤ × RedisOp} (listed : op ∈ ops) :
    op.2.request.index ∈ pairsOf ops :=
  ⟨op, listed, op.2.request_index.symm⟩

/-- A wrapper that serves its operations through a client answers as the ideal,
if the client keeps the pairs of the operations apart. -/
theorem transcript_eq_idealRun {σ κ : Type} [DecidableEq κ]
    {client : StoreClient σ κ String RedisPair RedisValue ℤ}
    (encodes : client.encode = RedisValue.text) {call : σ → ℤ → RedisOp → σ × RedisAnswer}
    (serves : ∀ s now op,
      call s now op = client.serve RedisOp.request (RedisOp.reply IsoDate.parse) s now op)
    {start : σ} (empty : ∀ key, client.store.get? start key = none) {ops : List (ℤ × RedisOp)}
    (clock : ops.Pairwise fun a b => a.1 ≤ b.1)
    (distinct : Set.InjOn client.place (pairsOf ops)) :
    transcript call start ops = IdealRedis.run ops := by
  unfold IdealRedis.run
  rw [show call = _ from funext fun s => funext fun now => funext (serves s now),
    show IdealRedis.call = _ from
      funext fun s => funext fun now => funext (IdealRedis.call_eq_serve s now)]
  apply StoreClient.transcript_eq_ideal (pairsOf ops)
  · intro op value
    rw [encodes]
    exact op.reply_text value
  · exact distinct
  · exact clock
  · exact fun op listed => mem_pairsOf listed
  · exact fun op _ => StoreClient.agrees_of_empty empty op.1

theorem client_run_eq_ideal {ops : List (ℤ × RedisOp)}
    (clock : ops.Pairwise fun a b => a.1 ≤ b.1) (distinct : DistinctKeys ops) :
    RedisClientWrapper.run ops = IdealRedis.run ops := by
  apply transcript_eq_idealRun rfl RedisClientWrapper.call_eq_serve (fun _ => rfl) clock
  rintro pair ⟨op, listed, rfl⟩ pair' ⟨op', listed', rfl⟩ same
  exact distinct op listed op' listed' (.inl same)

theorem standIn_run_eq_ideal {ops : List (ℤ × RedisOp)}
    (clock : ops.Pairwise fun a b => a.1 ≤ b.1) (distinct : DistinctKeys ops) :
    MockRedisClientWrapper.run ops = IdealRedis.run ops := by
  apply transcript_eq_idealRun rfl MockRedisClientWrapper.call_eq_serve (fun _ => rfl) clock
  rintro pair ⟨op, listed, rfl⟩ pair' ⟨op', listed', rfl⟩ same
  exact distinct op listed op' listed' (.inr same)

/-- The ideal answers the operations on a pair as if there were no others. -/
theorem ideal_run_filter (ops : List (ℤ × RedisOp)) (pair : RedisPair) :
    (IdealRedis.run ops).filter (·.1.pair = pair) =
      IdealRedis.run (ops.filter (·.2.pair = pair)) := by
  unfold IdealRedis.run
  rw [show IdealRedis.call = _ from
    funext fun s => funext fun now => funext (IdealRedis.call_eq_serve s now)]
  simp only [← RedisOp.request_index]
  exact StoreClient.ideal_transcript_filter pair ops rfl

/-- Fewer operations use fewer keys. -/
theorem DistinctKeys.filter {ops : List (ℤ × RedisOp)} (distinct : DistinctKeys ops)
    (keep : ℤ × RedisOp → Bool) : DistinctKeys (ops.filter keep) :=
  fun op listed op' listed' =>
    distinct op (List.mem_of_mem_filter listed) op' (List.mem_of_mem_filter listed')

/-- **Both wrappers are the ideal expiring map** on every sequence with a
clock that does not go back, if no two of its pairs share a key. -/
theorem wrappers_are_ideal (ops : List (ℤ × RedisOp))
    (clock : ops.Pairwise fun a b => a.1 ≤ b.1) (distinct : DistinctKeys ops) :
    WrappersIdeal ops := by
  have client := client_run_eq_ideal clock distinct
  have standIn := standIn_run_eq_ideal clock distinct
  refine ⟨client, standIn, fun pair => ?_, fun pair => ?_⟩
  · rw [client, ideal_run_filter]
    exact (client_run_eq_ideal (clock.filter _) (distinct.filter _)).symm
  · rw [standIn, ideal_run_filter]
    exact (standIn_run_eq_ideal (clock.filter _) (distinct.filter _)).symm

/-- A nudge to fan `x` about gate `a:b` is found as one to fan `b:x` about gate
`a`. -/
def collidingOps : List (ℤ × RedisOp) :=
  [(0, .setLastNudgeAt "x" "a:b" 0 300000), (1, .getLastNudgeAt "b:x" "a")]

theorem unescaped_ids_collide :
    collidingOps.Pairwise (fun a b => a.1 ≤ b.1) ∧ ¬ WrappersIdeal collidingOps := by
  refine ⟨by decide, fun ideal => ?_⟩
  have answers := congrArg (List.map Prod.snd) ideal.client
  have found : (RedisClientWrapper.run collidingOps).map Prod.snd =
      [.settled, .date (some 0)] := by decide +kernel
  have absent : (IdealRedis.run collidingOps).map Prod.snd = [.settled, .date none] := by
    decide +kernel
  rw [found, absent] at answers
  exact absurd answers (by decide)

/-! ## Plain ids -/

/-- The part of the pair that both wrappers can rely on has no colon: the gate
id of a cooldown or a rejection, the type of a source. -/
def RedisPair.Plain : RedisPair → Prop
  | .cooldown _ gateId | .rejection _ gateId => ':' ∉ gateId.toList
  | .source sourceType _ => ':' ∉ sourceType.toList

/-- The keys of the client for the three kinds of pairs, as joined texts. -/
theorem cooldownKey_eq (fanId : FanId) (gateId : GateId) :
    RedisClientWrapper.cooldownKey fanId gateId = "cooldown:" ++ Text.join ':' gateId fanId :=
  (Text.append_join "cooldown:" ':' gateId fanId).symm

theorem degradedSourceKey_eq (sourceType gateOrRouteId : String) :
    RedisClientWrapper.degradedSourceKey sourceType gateOrRouteId =
      "degraded-source:" ++ Text.join ':' sourceType gateOrRouteId :=
  (Text.append_join "degraded-source:" ':' sourceType gateOrRouteId).symm

theorem rejectionKey_eq (routeId : RouteId) (gateId : GateId) :
    RedisClientWrapper.rejectionKey routeId gateId =
      "redirection-rejection:" ++ Text.join ':' routeId gateId :=
  (Text.append_join "redirection-rejection:" ':' routeId gateId).symm

/-- The first letter of the keys of a kind. -/
def RedisPair.initial : RedisPair → Char
  | .cooldown .. => 'c'
  | .source .. => 'd'
  | .rejection .. => 'r'

theorem clientKey_initial (pair : RedisPair) :
    (RedisClientWrapper.keyOf pair).toList.head? = some pair.initial := by
  cases pair with
  | cooldown fanId gateId =>
      show (RedisClientWrapper.cooldownKey fanId gateId).toList.head? = _
      rw [cooldownKey_eq, String.toList_append]
      rfl
  | source sourceType id =>
      show (RedisClientWrapper.degradedSourceKey sourceType id).toList.head? = _
      rw [degradedSourceKey_eq, String.toList_append]
      rfl
  | rejection routeId gateId =>
      show (RedisClientWrapper.rejectionKey routeId gateId).toList.head? = _
      rw [rejectionKey_eq, String.toList_append]
      rfl

/-- The client's keys of plain pairs differ: the kind is told by the first
letter, the pair by the colon. -/
theorem clientKey_inj_of_plain {pair pair' : RedisPair} (plain : pair.Plain)
    (plain' : pair'.Plain)
    (same : RedisClientWrapper.keyOf pair = RedisClientWrapper.keyOf pair') : pair = pair' := by
  have kinds : pair.initial = pair'.initial := by
    rw [← Option.some_inj, ← clientKey_initial, ← clientKey_initial, same]
  cases pair with
  | cooldown fanId gateId =>
      cases pair' with
      | cooldown fanId' gateId' =>
          have keys : RedisClientWrapper.cooldownKey fanId gateId =
            RedisClientWrapper.cooldownKey fanId' gateId' := same
          rw [cooldownKey_eq, cooldownKey_eq, String.append_right_inj,
            Text.join_inj_of_plain_left plain plain'] at keys
          obtain ⟨rfl, rfl⟩ := keys
          rfl
      | source | rejection => simp [RedisPair.initial] at kinds
  | source sourceType id =>
      cases pair' with
      | source sourceType' id' =>
          have keys : RedisClientWrapper.degradedSourceKey sourceType id =
            RedisClientWrapper.degradedSourceKey sourceType' id' := same
          rw [degradedSourceKey_eq, degradedSourceKey_eq, String.append_right_inj,
            Text.join_inj_of_plain_left plain plain'] at keys
          obtain ⟨rfl, rfl⟩ := keys
          rfl
      | cooldown | rejection => simp [RedisPair.initial] at kinds
  | rejection routeId gateId =>
      cases pair' with
      | rejection routeId' gateId' =>
          have keys : RedisClientWrapper.rejectionKey routeId gateId =
            RedisClientWrapper.rejectionKey routeId' gateId' := same
          rw [rejectionKey_eq, rejectionKey_eq, String.append_right_inj,
            Text.join_inj_of_plain_right plain plain'] at keys
          obtain ⟨rfl, rfl⟩ := keys
          rfl
      | cooldown | source => simp [RedisPair.initial] at kinds

/-- So do the stand-in's, which are kept in a map for each kind. -/
theorem standInKey_inj_of_plain {pair pair' : RedisPair} (plain : pair.Plain)
    (plain' : pair'.Plain)
    (same : MockRedisClientWrapper.keyOf pair = MockRedisClientWrapper.keyOf pair') :
    pair = pair' := by
  obtain ⟨stores, keys⟩ := Prod.mk.inj same
  cases pair with
  | cooldown fanId gateId =>
      cases pair' with
      | cooldown fanId' gateId' =>
          obtain ⟨rfl, rfl⟩ := (Text.join_inj_of_plain_right plain plain').mp keys
          rfl
      | source | rejection => cases stores
  | source sourceType id =>
      cases pair' with
      | source sourceType' id' =>
          obtain ⟨rfl, rfl⟩ := (Text.join_inj_of_plain_left plain plain').mp keys
          rfl
      | cooldown | rejection => cases stores
  | rejection routeId gateId =>
      cases pair' with
      | rejection routeId' gateId' =>
          obtain ⟨rfl, rfl⟩ := (Text.join_inj_of_plain_right plain plain').mp keys
          rfl
      | cooldown | source => cases stores

/-- **Plain ids never collide.** -/
theorem distinctKeys_of_plain_ids {ops : List (ℤ × RedisOp)}
    (plain : ∀ op ∈ ops, op.2.pair.Plain) : DistinctKeys ops := by
  intro op listed op' listed' same
  rcases same with same | same
  · exact clientKey_inj_of_plain (plain op listed) (plain op' listed') same
  · exact standInKey_inj_of_plain (plain op listed) (plain op' listed') same

/-- A nudge is remembered for five minutes, and not for another gate. -/
def plainOps : List (ℤ × RedisOp) :=
  [(0, .setLastNudgeAt "fan-1" "gate-a" 0 300000), (1, .getLastNudgeAt "fan-1" "gate-b"),
    (299999, .getLastNudgeAt "fan-1" "gate-a"), (300000, .getLastNudgeAt "fan-1" "gate-a")]

theorem wrappers_are_ideal_demo : WrappersIdeal plainOps :=
  wrappers_are_ideal plainOps (by decide) (distinctKeys_of_plain_ids (by
    intro op listed
    simp only [plainOps, List.mem_cons, List.not_mem_nil, or_false] at listed
    rcases listed with rfl | rfl | rfl | rfl <;> show _ ∉ _ <;> decide))

end Stadium
