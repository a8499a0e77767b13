import Stadium.Lib.ExpiringMap

/-!
# Clients of a keyed store

A client keeps values with a time to live in a store, and names them by
indices of its own: `place` says under which key the store holds an index,
`encode` how a value is written. Some clients also remove an expired entry
when they read it.

The ideal store holds each index apart, so that the commands on one index are
answered as if there were no others (`ideal_transcript_filter`). A client
answers as the ideal store does, on every sequence of commands with a clock
that does not go back, as long as no two of the indices used share a key
(`transcript_eq_ideal`).
-/

/-- A store of entries under keys, by its laws. -/
structure KeyedStore (σ κ ε : Type*) [DecidableEq κ] where
  get? : σ → κ → Option ε
  set : σ → κ → ε → σ
  erase : σ → κ → σ
  get?_set : ∀ s key entry k, get? (set s key entry) k = if k = key then some entry else get? s k
  get?_erase : ∀ s key k, get? (erase s key) k = if k = key then none else get? s k

namespace KeyedStore

variable {κ δ ε : Type*} [DecidableEq κ] [DecidableEq δ]

/-- One insertion-ordered map. -/
def ofOrderedMap : KeyedStore (OrderedMap κ ε) κ ε where
  get? := OrderedMap.get?
  set := OrderedMap.set
  erase := OrderedMap.erase
  get?_set m key entry k := OrderedMap.get?_set m key k entry
  get?_erase := OrderedMap.get?_erase

/-- A family of insertion-ordered maps; a key names the map and the key in it. -/
def ofFamily : KeyedStore (δ → OrderedMap κ ε) (δ × κ) ε where
  get? maps key := (maps key.1).get? key.2
  set maps key entry := Function.update maps key.1 ((maps key.1).set key.2 entry)
  erase maps key := Function.update maps key.1 ((maps key.1).erase key.2)
  get?_set maps key entry k := by
    by_cases same : k.1 = key.1
    · rw [same, Function.update_self, OrderedMap.get?_set]
      simp only [Prod.ext_iff, same, true_and]
    · rw [Function.update_of_ne same, if_neg fun equal => same (congrArg Prod.fst equal)]
  get?_erase maps key k := by
    by_cases same : k.1 = key.1
    · rw [same, Function.update_self, OrderedMap.get?_erase]
      simp only [Prod.ext_iff, same, true_and]
    · rw [Function.update_of_ne same, if_neg fun equal => same (congrArg Prod.fst equal)]

/-- The function from keys to entries. -/
def ofFunction : KeyedStore (κ → Option ε) κ ε where
  get? f := f
  set f key entry := Function.update f key (some entry)
  erase f key := Function.update f key none
  get?_set f key entry k := Function.update_apply f key (some entry) k
  get?_erase f key k := Function.update_apply f key none k

end KeyedStore

/-- What a client asks for. -/
inductive StoreCommand (ι ν τ : Type*) where
  | write (index : ι) (value : ν) (ttl : τ)
  | read (index : ι)

def StoreCommand.index {ι ν τ : Type*} : StoreCommand ι ν τ → ι
  | .write index .. | .read index => index

/-- A client of a store of encoded values with a time to live. -/
structure StoreClient (σ κ ω ι ν τ : Type*) [DecidableEq κ] where
  store : KeyedStore σ κ (ExpiringEntry ω τ)
  place : ι → κ
  encode : ν → ω
  evicts : Bool

namespace StoreClient

section

variable {σ κ ω ι ν τ : Type*} [DecidableEq κ] [LinearOrder τ]
  (client : StoreClient σ κ ω ι ν τ)

/-- What the store shows under a key at time `now`. -/
def visible (s : σ) (key : κ) (now : τ) : Option ω :=
  (client.store.get? s key).bind fun entry =>
    if now < entry.expiresAt then some entry.value else none

def read (s : σ) (now : τ) (index : ι) : σ × Option ω :=
  match client.store.get? s (client.place index) with
  | none => (s, none)
  | some entry =>
      if now < entry.expiresAt then (s, some entry.value)
      else (if client.evicts then client.store.erase s (client.place index) else s, none)

/-- The three outcomes of a read: nothing stored, a live entry, an expired one. -/
theorem read_eq (s : σ) (now : τ) (index : ι) :
    (client.store.get? s (client.place index) = none ∧ client.read s now index = (s, none)) ∨
    ∃ entry, client.store.get? s (client.place index) = some entry ∧
      ((now < entry.expiresAt ∧ client.read s now index = (s, some entry.value)) ∨
        (entry.expiresAt ≤ now ∧ client.read s now index =
          (if client.evicts then client.store.erase s (client.place index) else s, none))) := by
  unfold read
  cases stored : client.store.get? s (client.place index) with
  | none => exact .inl ⟨rfl, rfl⟩
  | some entry =>
      refine .inr ⟨entry, rfl, ?_⟩
      rcases lt_or_ge now entry.expiresAt with alive | expired
      · exact .inl ⟨alive, if_pos alive⟩
      · exact .inr ⟨expired, if_neg (not_lt.mpr expired)⟩

/-- A read answers what is visible. -/
theorem read_answer (s : σ) (now : τ) (index : ι) :
    (client.read s now index).2 = client.visible s (client.place index) now := by
  unfold visible
  rcases client.read_eq s now index with
    ⟨stored, read⟩ | ⟨entry, stored, ⟨alive, read⟩ | ⟨expired, read⟩⟩
  · rw [read, stored, Option.bind_none]
  · rw [read, stored, Option.bind_some, if_pos alive]
  · rw [read, stored, Option.bind_some, if_neg (not_lt.mpr expired)]

/-- A client that does not evict leaves the store alone when it reads. -/
theorem read_of_keeps (keeps : client.evicts = false) (s : σ) (now : τ) (index : ι) :
    client.read s now index = (s, client.visible s (client.place index) now) := by
  refine Prod.ext ?_ (client.read_answer s now index)
  rcases client.read_eq s now index with
    ⟨-, read⟩ | ⟨entry, -, ⟨-, read⟩ | ⟨-, read⟩⟩
  · rw [read]
  · rw [read]
  · rw [read, keeps]
    rfl

/-- A read changes nothing that a later read could see: what it removes has
expired. -/
theorem visible_read (s : σ) {now later : τ} (order : now ≤ later) (index : ι) (key : κ) :
    client.visible (client.read s now index).1 key later = client.visible s key later := by
  rcases client.read_eq s now index with
    ⟨-, read⟩ | ⟨entry, stored, ⟨-, read⟩ | ⟨expired, read⟩⟩
  · rw [read]
  · rw [read]
  · rw [read]
    cases client.evicts with
    | false => rfl
    | true =>
        show (client.store.get? (client.store.erase s _) key).bind _ = _
        rw [client.store.get?_erase]
        by_cases same : key = client.place index
        · rw [if_pos same, Option.bind_none, visible, same, stored, Option.bind_some,
            if_neg (not_lt.mpr (expired.trans order))]
        · rw [if_neg same]
          rfl

variable [Add τ]

def write (s : σ) (now : τ) (index : ι) (value : ν) (ttl : τ) : σ :=
  client.store.set s (client.place index) ⟨client.encode value, now + ttl⟩

theorem visible_write (s : σ) (now : τ) (index : ι) (value : ν) (ttl : τ) (key : κ) (later : τ) :
    client.visible (client.write s now index value ttl) key later =
      if key = client.place index then
        if later < now + ttl then some (client.encode value) else none
      else client.visible s key later := by
  unfold visible write
  rw [client.store.get?_set]
  by_cases same : key = client.place index
  · rw [if_pos same, if_pos same, Option.bind_some]
  · rw [if_neg same, if_neg same]

/-- One command at time `now`, and the value it answers. -/
def step (s : σ) (now : τ) : StoreCommand ι ν τ → σ × Option ω
  | .write index value ttl => (client.write s now index value ttl, none)
  | .read index => client.read s now index

end

/-! ## The ideal store -/

section

variable {σ κ ω ι ν τ : Type*} [DecidableEq κ] [DecidableEq ι] [LinearOrder τ]

/-- The client that keeps every index apart and writes values as they are. -/
def ideal (ι ν τ : Type*) [DecidableEq ι] :
    StoreClient (ι → Option (ExpiringEntry ν τ)) ι ν ι ν τ where
  store := .ofFunction
  place := id
  encode := id
  evicts := false

omit [LinearOrder τ] in
theorem ideal_place (index : ι) : (ideal ι ν τ).place index = index := rfl

omit [LinearOrder τ] in
theorem ideal_encode (value : ν) : (ideal ι ν τ).encode value = value := rfl

/-- From `now` on, the store shows under the keys of the used indices what the
ideal store shows under the indices. -/
def Agrees (client : StoreClient σ κ ω ι ν τ) (used : Set ι) (now : τ) (s : σ)
    (t : ι → Option (ExpiringEntry ν τ)) : Prop :=
  ∀ index ∈ used, ∀ later, now ≤ later →
    client.visible s (client.place index) later =
      ((ideal ι ν τ).visible t index later).map client.encode

variable {client : StoreClient σ κ ω ι ν τ} {used : Set ι} {s : σ}
  {t : ι → Option (ExpiringEntry ν τ)} {now : τ}

theorem Agrees.later {later : τ} (agrees : client.Agrees used now s t) (order : now ≤ later) :
    client.Agrees used later s t :=
  fun index member instant after => agrees index member instant (order.trans after)

/-- Stores that hold nothing agree. -/
theorem agrees_of_empty (empty : ∀ key, client.store.get? s key = none) (now : τ) :
    client.Agrees used now s (fun _ => none : ι → Option (ExpiringEntry ν τ)) := by
  intro index _ later _
  rw [visible, empty]
  rfl

variable [Add τ]

/-- A command on both sides gets the same answer and keeps the agreement, if
its index shares its key with no other used index. -/
theorem agrees_step (distinct : Set.InjOn client.place used)
    (agrees : client.Agrees used now s t) (command : StoreCommand ι ν τ)
    (member : command.index ∈ used) :
    (client.step s now command).2 =
        ((ideal ι ν τ).step t now command).2.map client.encode ∧
      client.Agrees used now (client.step s now command).1
        ((ideal ι ν τ).step t now command).1 := by
  cases command with
  | write index value ttl =>
      refine ⟨rfl, fun other otherIn later order => ?_⟩
      show client.visible (client.write s now index value ttl) _ later =
        ((ideal ι ν τ).visible ((ideal ι ν τ).write t now index value ttl) other later).map _
      rw [visible_write, visible_write, ideal_place, ideal_encode]
      have sameKey : client.place other = client.place index ↔ other = index :=
        distinct.eq_iff otherIn member
      by_cases same : other = index
      · rw [if_pos (sameKey.mpr same), if_pos same]
        split <;> rfl
      · rw [if_neg (sameKey.not.mpr same), if_neg same]
        exact agrees other otherIn later order
  | read index =>
      constructor
      · show (client.read s now index).2 = ((ideal ι ν τ).read t now index).2.map _
        rw [read_answer, read_answer]
        exact agrees index member now le_rfl
      · intro other otherIn later order
        show client.visible (client.read s now index).1 _ later =
          ((ideal ι ν τ).visible ((ideal ι ν τ).read t now index).1 other later).map _
        rw [visible_read client s order, visible_read (ideal ι ν τ) t order]
        exact agrees other otherIn later order

/-- A command leaves the other indices of the ideal store alone. -/
theorem ideal_step_other (t : ι → Option (ExpiringEntry ν τ)) (now : τ)
    (command : StoreCommand ι ν τ) {index : ι} (other : index ≠ command.index) :
    ((ideal ι ν τ).step t now command).1 index = t index := by
  cases command with
  | write own value ttl => exact Function.update_of_ne other _ t
  | read own =>
      show ((ideal ι ν τ).read t now own).1 index = t index
      unfold read
      split
      · rfl
      · split <;> rfl

/-- What a command does to its own index depends on that index alone. -/
theorem ideal_step_own {t' : ι → Option (ExpiringEntry ν τ)} (now : τ)
    (command : StoreCommand ι ν τ) (same : t command.index = t' command.index) :
    ((ideal ι ν τ).step t now command).2 = ((ideal ι ν τ).step t' now command).2 ∧
      ((ideal ι ν τ).step t now command).1 command.index =
        ((ideal ι ν τ).step t' now command).1 command.index := by
  cases command with
  | write own value ttl =>
      refine ⟨rfl, ?_⟩
      show Function.update t own _ own = Function.update t' own _ own
      rw [Function.update_self, Function.update_self]
  | read own =>
      have same : t own = t' own := same
      show ((ideal ι ν τ).read t now own).2 = ((ideal ι ν τ).read t' now own).2 ∧
        ((ideal ι ν τ).read t now own).1 own = ((ideal ι ν τ).read t' now own).1 own
      have stored : (ideal ι ν τ).store.get? t own = (ideal ι ν τ).store.get? t' own := same
      unfold read
      rw [show (ideal ι ν τ).place own = own from rfl, stored]
      split
      · exact ⟨rfl, same⟩
      · split
        · exact ⟨rfl, same⟩
        · exact ⟨rfl, same⟩

end

end StoreClient

/-! ## Whole sequences -/

/-- Serve operations one by one, each at its time, and list them with their
answers. -/
def transcript {σ τ ο α : Type*} (call : σ → τ → ο → σ × α) :
    σ → List (τ × ο) → List (ο × α)
  | _, [] => []
  | s, (now, op) :: rest => (op, (call s now op).2) :: transcript call (call s now op).1 rest

namespace StoreClient

variable {σ κ ω ι ν τ ο α : Type*} [DecidableEq κ] [DecidableEq ι] [LinearOrder τ] [Add τ]
  {client : StoreClient σ κ ω ι ν τ} (request : ο → StoreCommand ι ν τ)

/-- An operation through a client: its command, and the reply made of the
value. -/
def serve (client : StoreClient σ κ ω ι ν τ) (reply : ο → Option ω → α) (s : σ) (now : τ)
    (op : ο) : σ × α :=
  ((client.step s now (request op)).1, reply op (client.step s now (request op)).2)

variable {request}

/-- **A client of distinct keys is the ideal store**: from states that agree,
with a clock that does not go back, it gives the same replies. -/
theorem transcript_eq_ideal (used : Set ι) {reply : ο → Option ω → α}
    {idealReply : ο → Option ν → α}
    (decodes : ∀ op value, reply op (value.map client.encode) = idealReply op value)
    (distinct : Set.InjOn client.place used) (ops : List (τ × ο))
    (clock : ops.Pairwise fun a b => a.1 ≤ b.1)
    (members : ∀ op ∈ ops, (request op.2).index ∈ used) {s : σ}
    {t : ι → Option (ExpiringEntry ν τ)}
    (agrees : ∀ op ∈ ops, client.Agrees used op.1 s t) :
    transcript (client.serve request reply) s ops =
      transcript ((ideal ι ν τ).serve request idealReply) t ops := by
  induction ops generalizing s t with
  | nil => rfl
  | cons op rest ih =>
      obtain ⟨now, op⟩ := op
      obtain ⟨first, clock⟩ := List.pairwise_cons.mp clock
      obtain ⟨same, kept⟩ := agrees_step distinct (agrees _ List.mem_cons_self) (request op)
        (members _ List.mem_cons_self)
      have replied : (client.serve request reply s now op).2 =
          ((ideal ι ν τ).serve request idealReply t now op).2 := by
        show reply op _ = idealReply op _
        rw [same]
        exact decodes op _
      unfold transcript
      rw [replied]
      congr 1
      apply ih clock
      · exact fun other listed => members other (List.mem_cons_of_mem _ listed)
      · exact fun other listed => kept.later (first other listed)

/-- **Indices do not interfere** in the ideal store: the operations on one
index are answered as if there were no others. -/
theorem ideal_transcript_filter {idealReply : ο → Option ν → α} (index : ι) (ops : List (τ × ο))
    {t t' : ι → Option (ExpiringEntry ν τ)} (same : t index = t' index) :
    (transcript ((ideal ι ν τ).serve request idealReply) t ops).filter
        (fun served => (request served.1).index = index) =
      transcript ((ideal ι ν τ).serve request idealReply) t'
        (ops.filter fun op => (request op.2).index = index) := by
  induction ops generalizing t t' with
  | nil => rfl
  | cons op rest ih =>
      obtain ⟨now, op⟩ := op
      by_cases own : (request op).index = index
      · subst own
        obtain ⟨answered, kept⟩ := ideal_step_own now (request op) same
        rw [List.filter_cons_of_pos (by simp)]
        unfold transcript
        rw [List.filter_cons_of_pos (by simp)]
        show (op, idealReply op _) :: _ = (op, idealReply op _) :: _
        rw [answered]
        congr 1
        exact ih kept
      · rw [List.filter_cons_of_neg (by simpa using own)]
        rw [transcript, List.filter_cons_of_neg (by simpa using own)]
        apply ih
        rw [← same]
        exact ideal_step_other t now (request op) (Ne.symm own)

end StoreClient
