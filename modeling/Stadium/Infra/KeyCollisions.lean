import Stadium.Infra.KeyTable
import Stadium.Lib.ByteCut

/-!
# Keys that pass for one another

A key of more than 256 bytes in at most 256 UTF-16 code units is cut by the buffer: a
text that differs from it behind the cut passes for it (`long_keys_collide`). Whether a
presented text can be given the roles of another key, under some value of `API_KEYS`,
can be read off the text (`authenticates_only_itself_iff`).
-/

namespace Stadium

/-- A key may begin with this: no blank in front, and neither a comma nor a colon. -/
def MayBegin (start : List Char) : Prop :=
  (∀ c ∈ start.head?, Text.isWhiteSpace c = false) ∧ ',' ∉ start ∧ ':' ∉ start

/-- The buffer cuts the text, although in code units it is not too long, and what the
buffer has of it may be the beginning of a key of `API_KEYS`. -/
structure CutByBuffer (value : String) : Prop where
  cut : maxKeyLength < (Text.utf8Bytes value).length
  short : Text.utf16Length value ≤ maxKeyLength
  begins : MayBegin (Text.within maxKeyLength value.toList)

/-! ## Texts that authenticate only themselves -/

theorem passing_of_verified {raw : Option String} {value : String} {roles : List Role}
    (verified : verifyApiKey (parseApiKeys raw) (some value) = some roles) :
    ∃ key, (parseApiKeys raw).get? key = some roles ∧ constantTimeEquals value key = true := by
  have nonempty : value ≠ "" := by
    rintro rfl
    cases verified
  rw [verifyApiKey_eq raw nonempty] at verified
  obtain ⟨⟨key, own⟩, last, rfl⟩ := Option.map_eq_some_iff.mp verified
  obtain ⟨listed, passes⟩ := List.mem_filter.mp (List.mem_of_getLast? last)
  exact ⟨key, OrderedMap.mem_entries.mp listed, passes⟩

/-- A text that fits the buffer authenticates only itself. -/
theorem harmless_of_fits {raw : Option String} {value : String}
    (fits : (Text.utf8Bytes value).length ≤ maxKeyLength) : AuthenticatesOnlyItself raw value := by
  intro roles verified
  obtain ⟨key, configured, passes⟩ := passing_of_verified verified
  obtain rfl := eq_of_constantTimeEquals passes fits
  rwa [← parseApiKeys_get?]

/-- A key that passes for a text that is cut begins like it. -/
theorem within_prefix_of_passes {value key : String}
    (cut : maxKeyLength < (Text.utf8Bytes value).length)
    (passes : constantTimeEquals value key = true) :
    Text.within maxKeyLength value.toList <+: key.toList := by
  obtain ⟨buffers, -, -⟩ := constantTimeEquals_iff.mp passes
  have length : maxKeyLength ≤ (Text.utf8Bytes key).length := by
    by_contra short
    -- a key that fits is passed for by itself alone
    have same := eq_of_constantTimeEquals (constantTimeEquals_symm passes) (by omega)
    rw [same] at short
    omega
  obtain ⟨rest, split⟩ := Text.within_prefix maxKeyLength value.toList
  have fits := Text.length_within maxKeyLength value.toList
  generalize Text.within maxKeyLength value.toList = start at *
  have starts : (Text.utf8Bytes value).take (Text.bytes start).length =
      (Text.utf8Bytes key).take (Text.bytes start).length := by
    have heads := congrArg (List.take (Text.bytes start).length) buffers
    unfold toFixedBuffer at heads
    rwa [Nat.sub_eq_zero_of_le (by omega), Nat.sub_eq_zero_of_le (by omega), List.replicate_zero,
      List.append_nil, List.append_nil, List.take_take, List.take_take, min_eq_left fits] at heads
  have own : Text.utf8Bytes value = Text.bytes start ++ Text.bytes rest := by
    unfold Text.utf8Bytes
    rw [← split]
    exact Text.bytes_append start rest
  rw [own, List.take_left] at starts
  have bytes : Text.utf8Bytes (String.ofList start) <+: Text.utf8Bytes key := by
    rw [Text.utf8Bytes_ofList, starts]
    exact List.take_prefix _ _
  have chars := Text.prefix_of_utf8Bytes bytes
  rwa [String.toList_ofList] at chars

theorem mayBegin_of_prefix {key : String} (writable : Writable key) {start : List Char}
    (begins : start <+: key.toList) : MayBegin start := by
  refine ⟨fun c first => ?_, fun listed => writable.noComma (begins.subset listed),
    fun listed => writable.noColon (begins.subset listed)⟩
  obtain ⟨rest, split⟩ := begins
  apply (Text.bare_of_trim_eq writable.trimmed).1 c
  rw [← split, List.head?_append, Option.mem_def.mp first]
  rfl

theorem harmless_of_not_cut {raw : Option String} {value : String} (uncut : ¬ CutByBuffer value) :
    AuthenticatesOnlyItself raw value := by
  by_cases fits : (Text.utf8Bytes value).length ≤ maxKeyLength
  · exact harmless_of_fits fits
  · intro roles verified
    obtain ⟨key, configured, passes⟩ := passing_of_verified verified
    have cut : maxKeyLength < (Text.utf8Bytes value).length := by omega
    have writable : Writable key :=
      writable_of_counted (OrderedMap.mem_of_get?_ofList configured)
    exact absurd ⟨cut, (constantTimeEquals_iff.mp passes).2.2,
      mayBegin_of_prefix writable (within_prefix_of_passes cut passes)⟩ uncut

/-! ## A key for every text that is cut -/

/-- A key that begins with what the buffer has of a text and goes on harmlessly. -/
theorem writable_of_mayBegin {start rest : List Char} (begins : MayBegin start)
    (someRest : rest ≠ []) (harmless : ∀ c ∈ rest, Text.Harmless c) :
    Writable (String.ofList (start ++ rest)) := by
  obtain ⟨solid, noComma, noColon⟩ := begins
  have bare : Text.Bare (start ++ rest) := by
    constructor
    · intro c first
      cases start with
      | nil => exact (harmless c (List.mem_of_head? first)).isWhiteSpace
      | cons head tail => exact solid c first
    · intro c last
      rw [List.getLast?_append_of_ne_nil _ someRest] at last
      exact (harmless c (List.mem_of_getLast? last)).isWhiteSpace
  refine ⟨by simp [someRest], ?_, ?_, ?_⟩
  · rw [String.toList_ofList, Text.trim_bare bare]
  · rw [String.toList_ofList, List.mem_append, not_or]
    exact ⟨noComma, fun listed => absurd (harmless ',' listed) (by decide)⟩
  · rw [String.toList_ofList, List.mem_append, not_or]
    exact ⟨noColon, fun listed => absurd (harmless ':' listed) (by decide)⟩

/-- Under a key of its own that another text passes for, that text gets the roles. -/
theorem verified_as_other {key value : String} (writable : Writable key) (other : value ≠ key)
    (passes : constantTimeEquals value key = true) :
    ¬ AuthenticatesOnlyItself (some (renderEntries [(key, [.auditor])])) value := by
  have counted : countedEntries (some (renderEntries [(key, [.auditor])])) = [(key, [.auditor])] :=
    countedEntries_render (by simpa using writable) (by simp)
  have nonempty : value ≠ "" := by
    rintro rfl
    exact other (eq_of_constantTimeEquals passes (Nat.zero_le _))
  intro only
  have verified : verifyApiKey (parseApiKeys (some (renderEntries [(key, [.auditor])])))
      (some value) = some [.auditor] := by
    rw [verifyApiKey_eq _ nonempty]
    unfold passingKeys parseApiKeys
    rw [counted]
    show (([(key, [Role.auditor])].filter fun entry =>
      constantTimeEquals value entry.1).getLast?).map (·.2) = _
    simp only [List.filter_cons, passes, if_true, List.filter_nil]
    rfl
  have roles := only [.auditor] verified
  unfold configuredRoles at roles
  rw [counted, List.filter_cons_of_neg (by simpa using other.symm)] at roles
  cases roles

theorem passes_of_same_buffer {value key : String}
    (cut : maxKeyLength < (Text.utf8Bytes value).length)
    (short : Text.utf16Length value ≤ maxKeyLength)
    (units : Text.utf16Length key = Text.utf16Length value)
    (long : maxKeyLength ≤ (Text.utf8Bytes key).length)
    (heads : (Text.utf8Bytes key).take maxKeyLength = (Text.utf8Bytes value).take maxKeyLength) :
    constantTimeEquals value key = true := by
  refine constantTimeEquals_iff.mpr ⟨?_, units.symm, short⟩
  unfold toFixedBuffer
  rw [Nat.sub_eq_zero_of_le cut.le, Nat.sub_eq_zero_of_le long, heads]

/-- **API keys authenticate only themselves exactly where the buffer cuts nothing off.**
A presented text is given the roles of its own key only, whatever `API_KEYS` is, exactly
if it fits the buffer, or is too long in code units, or what the buffer has of it cannot
be the beginning of a key. -/
theorem authenticates_only_itself_iff (value : String) :
    (∀ raw, AuthenticatesOnlyItself raw value) ↔ ¬ CutByBuffer value := by
  constructor
  · intro only isCut
    have longer : maxKeyLength < (Text.bytes value.toList).length := isCut.cut
    obtain ⟨rest, harmless, someRest, other, units, long, heads⟩ := Text.exists_twin longer
    have writable := writable_of_mayBegin isCut.begins someRest harmless
    refine verified_as_other writable (fun same => other ?_)
      (passes_of_same_buffer isCut.cut isCut.short ?_ ?_ ?_) (only _)
    · exact (String.toList_ofList.symm.trans (congrArg String.toList same).symm)
    · unfold Text.utf16Length
      rw [String.toList_ofList]
      exact units
    · rw [Text.utf8Bytes_ofList]
      exact long
    · rw [Text.utf8Bytes_ofList]
      exact heads
  · exact fun uncut raw => harmless_of_not_cut uncut

/-- A text that fills the buffer hides what is appended to it. -/
theorem toFixedBuffer_append {value : String}
    (full : (Text.utf8Bytes value).length = maxKeyLength) (rest : String) :
    toFixedBuffer (value ++ rest) = Text.utf8Bytes value := by
  unfold toFixedBuffer
  rw [Text.utf8Bytes_append, ← full, List.take_left, List.length_append, Nat.sub_eq_zero_of_le
    (Nat.le_add_right _ _), List.replicate_zero, List.append_nil]

/-- 128 letters of two bytes each. -/
def bufferful : String := String.ofList (List.replicate 128 'é')

theorem bufferful_toList : bufferful.toList = List.replicate 128 'é' := String.toList_ofList

theorem bufferful_full : (Text.utf8Bytes bufferful).length = maxKeyLength := by
  unfold Text.utf8Bytes
  rw [bufferful_toList, List.length_flatMap, List.map_replicate, List.sum_replicate]
  rfl

theorem bufferful_units : Text.utf16Length bufferful = 128 := by
  unfold Text.utf16Length
  rw [bufferful_toList, List.map_replicate, List.sum_replicate]
  rfl

theorem bufferful_passes : constantTimeEquals (bufferful ++ "b") (bufferful ++ "a") = true := by
  rw [constantTimeEquals_iff, toFixedBuffer_append bufferful_full,
    toFixedBuffer_append bufferful_full, Text.utf16Length_append, Text.utf16Length_append,
    bufferful_units]
  exact ⟨rfl, by decide, by decide⟩

/-- Of two keys that differ behind the 256th byte only the first is
configured; the second gets its role. -/
theorem long_keys_collide :
    ¬ AuthenticatesOnlyItself (some (bufferful ++ "a:AUDITOR")) (bufferful ++ "b") := by
  have text : bufferful ++ "a:AUDITOR" = renderEntries [(bufferful ++ "a", [.auditor])] := by
    unfold renderEntries renderEntry
    apply String.toList_inj.mp
    rw [String.toList_ofList]
    simp only [List.map_cons, List.map_nil, List.intercalate_singleton, String.toList_append]
    rw [List.append_assoc]
    rfl
  have writable : Writable (bufferful ++ "a") := by
    refine ⟨?_, ?_, ?_, ?_⟩ <;>
      simp only [ne_eq, ← String.toList_inj, String.toList_append, bufferful_toList] <;>
      decide +kernel
  rw [text]
  refine verified_as_other writable (fun same => ?_) bufferful_passes
  have lists := congrArg String.toList same
  rw [String.toList_append, String.toList_append] at lists
  exact absurd (List.append_cancel_left lists) (by decide)

end Stadium
