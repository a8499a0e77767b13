import Stadium.Lib.OrderedMap

/-!
# Stores of records

A store keeps every record under the record's own key, and a later record of
the same key replaces it. A stored record may go on changing in a part that
`view` leaves out, never in its key.

`Keeps` relates a store to the records made so far and to those written to it:
whatever it holds shows a record that was made, and no written key is lost. If
the records made have different keys, it shows every record that was written
(`Keeps.shows`).
-/

namespace OrderedMap

variable {κ ν : Type*} [DecidableEq κ]

/-- A key once set stays set. -/
theorem isSome_get?_set {m : OrderedMap κ ν} {k : κ} (present : (m.get? k).isSome) (key : κ)
    (value : ν) : ((m.set key value).get? k).isSome := by
  rw [get?_set]
  split
  · rfl
  · exact present

/-- The store holds what was made, each under its own key, and an entry for
every record written. -/
structure Keeps (keyOf : ν → κ) (view : ν → ν) (made written : List ν) (m : OrderedMap κ ν) :
    Prop where
  own : ∀ key value, m.get? key = some value → keyOf value = key ∧ view value ∈ made
  present : ∀ r ∈ written, r ∈ made ∧ (m.get? (keyOf r)).isSome

namespace Keeps

variable {keyOf : ν → κ} {view : ν → ν} {made made' written : List ν} {m : OrderedMap κ ν}

theorem empty : Keeps keyOf view made [] (∅ : OrderedMap κ ν) where
  own := by simp
  present := by simp

/-- More records are made. -/
theorem grow (kept : Keeps keyOf view made written m) (more : made ⊆ made') :
    Keeps keyOf view made' written m where
  own := by
    intro key value found
    obtain ⟨own, among⟩ := kept.own key value found
    exact ⟨own, more among⟩
  present := by
    intro r member
    obtain ⟨among, stored⟩ := kept.present r member
    exact ⟨more among, stored⟩

/-- A record is replaced by a state of a record that was made. -/
theorem set (kept : Keeps keyOf view made written m) {value : ν} (among : view value ∈ made) :
    Keeps keyOf view made written (m.set (keyOf value) value) where
  own := by
    intro key other found
    rw [get?_set] at found
    split at found
    · next same =>
        obtain rfl := Option.some.inj found
        exact ⟨same.symm, among⟩
    · exact kept.own key other found
  present := by
    intro r member
    obtain ⟨among, stored⟩ := kept.present r member
    exact ⟨among, isSome_get?_set stored (keyOf value) value⟩

/-- A record that was made is written. -/
theorem write (kept : Keeps keyOf view made written m) {r : ν} (among : r ∈ made)
    (unchanged : view r = r) :
    Keeps keyOf view made (written ++ [r]) (m.set (keyOf r) r) where
  own := (kept.set (by rwa [unchanged])).own
  present := by
    intro other member
    rcases List.mem_append.mp member with earlier | now
    · exact (kept.set (by rwa [unchanged])).present other earlier
    · obtain rfl := List.mem_singleton.mp now
      exact ⟨among, by simp⟩

/-- Records that were made are written one by one. -/
theorem writeAll (kept : Keeps keyOf view made written m) {records : List ν}
    (among : ∀ r ∈ records, r ∈ made ∧ view r = r) :
    Keeps keyOf view made (written ++ records)
      (records.foldl (fun m r => m.set (keyOf r) r) m) := by
  induction records generalizing m written with
  | nil =>
      rw [List.append_nil]
      exact kept
  | cons r rest ih =>
      rw [List.forall_mem_cons] at among
      have next := ih (kept.write among.1.1 among.1.2) among.2
      rwa [List.append_assoc] at next

theorem mem_of_mem_values (kept : Keeps keyOf view made written m) {value : ν}
    (member : value ∈ m.values) : view value ∈ made := by
  obtain ⟨⟨key, _⟩, entry, rfl⟩ := List.mem_map.mp member
  exact (kept.own key _ (mem_entries.mp entry)).2

/-- **No record is lost.** Where the records made have different keys, the store
shows each that was written. -/
theorem shows (kept : Keeps keyOf view made written m)
    (named : ∀ value, keyOf (view value) = keyOf value) (distinct : (made.map keyOf).Nodup) :
    ∀ r ∈ written, (m.get? (keyOf r)).map view = some r := by
  intro r member
  obtain ⟨among, stored⟩ := kept.present r member
  obtain ⟨value, found⟩ := Option.isSome_iff_exists.mp stored
  obtain ⟨own, shown⟩ := kept.own _ value found
  rw [← named] at own
  rw [found, Option.map_some, List.inj_on_of_nodup_map distinct shown among own]

end Keeps

end OrderedMap
