import Stadium.Lib.OrderedMap

/-!
# Maps whose entries expire

A key-value store with a time to live: an entry written at time `t` with
lifetime `ttl` answers reads before `t + ttl` and has vanished from then on.
Expired entries stay in the representation until they are overwritten, so the
value last written under a key can still be named (`lastWritten?`) although
no read returns it any more.
-/

/-- A stored value with the instant at which it vanishes. -/
structure ExpiringEntry (ν τ : Type*) where
  value : ν
  expiresAt : τ

/-- A map from keys to values with a lifetime. -/
abbrev ExpiringMap (κ ν τ : Type*) := OrderedMap κ (ExpiringEntry ν τ)

namespace ExpiringMap

variable {κ ν τ : Type*} [DecidableEq κ]

/-- The value last written under `key`, whether or not it has expired. -/
def lastWritten? (m : ExpiringMap κ ν τ) (key : κ) : Option ν :=
  (m.get? key).map (·.value)

/-- Write `value` at time `now` with lifetime `ttl`. -/
def write [Add τ] (m : ExpiringMap κ ν τ) (key : κ) (value : ν) (now ttl : τ) :
    ExpiringMap κ ν τ :=
  m.set key ⟨value, now + ttl⟩

/-- Read `key` at time `now`: an expired entry is not there any more. -/
def read? [LT τ] [DecidableLT τ] (m : ExpiringMap κ ν τ) (key : κ) (now : τ) : Option ν :=
  (m.get? key).bind fun entry => if now < entry.expiresAt then some entry.value else none

theorem lastWritten?_write [Add τ] (m : ExpiringMap κ ν τ) (key k : κ) (value : ν)
    (now ttl : τ) :
    lastWritten? (write m key value now ttl) k =
      if k = key then some value else lastWritten? m k := by
  unfold lastWritten? write
  rw [OrderedMap.get?_set]
  split <;> rfl

/-- A read that answers returns the value last written. -/
theorem lastWritten?_of_read? [LT τ] [DecidableLT τ] {m : ExpiringMap κ ν τ} {key : κ}
    {now : τ} {value : ν} (h : read? m key now = some value) :
    lastWritten? m key = some value := by
  unfold read? at h
  obtain ⟨entry, stored, answered⟩ := Option.bind_eq_some_iff.mp h
  split at answered
  · rw [lastWritten?, stored]
    exact answered
  · cases answered

theorem read?_write [Add τ] [LT τ] [DecidableLT τ] (m : ExpiringMap κ ν τ) (key k : κ) (value : ν)
    (written ttl now : τ) :
    read? (write m key value written ttl) k now =
      if k = key then (if now < written + ttl then some value else none) else read? m k now := by
  unfold read? write
  rw [OrderedMap.get?_set]
  split <;> rfl

section Marks

variable {ι : Type*} [AddCommMonoid τ] [LinearOrder τ] [IsOrderedAddMonoid τ]
  (place : ι → κ) (ttl : ι → τ) (value : ν)

/-- Marks set one after another, each with the lifetime of its index. -/
def markAll (m : ExpiringMap κ ν τ) (marks : List (ι × τ)) : ExpiringMap κ ν τ :=
  marks.foldl (fun m mark => write m (place mark.1) value mark.2 (ttl mark.1)) m

/-- A mark is read exactly as long as the newest of its kind lives, that is as
long as any of its kind does. -/
theorem read?_markAll {place} (distinct : Function.Injective place) {marks : List (ι × τ)}
    (clock : marks.Pairwise fun a b => a.2 ≤ b.2) (index : ι) (now : τ) :
    (read? (markAll place ttl value (∅ : OrderedMap κ _) marks) (place index) now).isSome =
        true ↔
      ∃ written, (index, written) ∈ marks ∧ now < written + ttl index := by
  induction marks using List.reverseRecOn with
  | nil =>
      refine iff_of_false Bool.false_ne_true ?_
      rintro ⟨written, impossible, -⟩
      cases impossible
  | append_singleton earlier mark ih =>
      obtain ⟨earlierClock, -, last⟩ := List.pairwise_append.mp clock
      unfold markAll at ih ⊢
      rw [List.foldl_concat, read?_write]
      split
      · rename_i same
        obtain rfl := distinct same
        constructor
        · intro alive
          refine ⟨mark.2, List.mem_append_right _ List.mem_cons_self, ?_⟩
          by_contra dead
          rw [if_neg dead] at alive
          cases alive
        · rintro ⟨written, listed, alive⟩
          have newest : written ≤ mark.2 := by
            rcases List.mem_append.mp listed with before | own
            · exact last _ before mark List.mem_cons_self
            · exact le_of_eq (congrArg Prod.snd (List.mem_singleton.mp own))
          rw [if_pos (alive.trans_le (by gcongr))]
          rfl
      · rename_i other
        rw [ih earlierClock]
        refine exists_congr fun written => and_congr_left fun _ => ?_
        rw [List.mem_append, List.mem_singleton]
        refine ⟨.inl, fun listed => listed.resolve_right fun own => other ?_⟩
        rw [← own]

end Marks

end ExpiringMap
