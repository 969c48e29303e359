/-!
# Parts of a text between two offsets

An offset counts the bytes of a text in UTF-8. Characters take one to four of them, so what stands
between two offsets is a text only if both fall between characters. Main statement:
`slice?_eq_some_iff`, by which `slice?` finds the parts of a text and nothing else.
-/

namespace TriggerRule.Text

/-- The number of bytes that characters take. -/
def size (cs : List Char) : Nat := (String.ofList cs).utf8ByteSize

@[simp] theorem size_nil : size [] = 0 := rfl

@[simp] theorem size_append (cs ds : List Char) : size (cs ++ ds) = size cs + size ds := by
  unfold size
  rw [String.ofList_append, String.utf8ByteSize_append]

@[simp] theorem size_cons (c : Char) (cs : List Char) :
    size (c :: cs) = c.utf8Size + size cs := by
  rw [← List.singleton_append, size_append, size, ← String.singleton_eq_ofList,
    String.utf8ByteSize_singleton]

@[simp] theorem size_toList (text : String) : size text.toList = text.utf8ByteSize := by
  rw [size, String.ofList_toList]

/-- The part of a text between two offsets, if both fall between characters and the first is not
the greater. -/
def slice? (text : String) (start stop : Nat) : Option String := do
  let first ← text.pos? ⟨start⟩
  let last ← text.pos? ⟨stop⟩
  let slice ← text.slice? first last
  return slice.copy

/-- An offset between characters is a position of the text. -/
theorem pos?_eq_some_iff {text : String} {offset : Nat} {p : text.Pos} :
    text.pos? ⟨offset⟩ = some p ↔ p.offset.byteIdx = offset := by
  unfold String.pos? String.Slice.pos?
  constructor
  · intro h
    split at h
    · obtain rfl := Option.some.inj h
      rfl
    · simp at h
  · rintro rfl
    have hvalid : String.Pos.Raw.isValidForSlice text.toSlice p.offset = true := by
      rw [String.Pos.Raw.isValidForSlice_eq_true_iff, String.Pos.Raw.isValidForSlice_toSlice_iff]
      exact p.isValid
    rw [dif_pos hvalid]
    exact congrArg some (String.Pos.ext rfl)

theorem slice?_eq_some_iff {text word : String} {start stop : Nat} :
    slice? text start stop = some word ↔ ∃ before after, text = before ++ word ++ after ∧
      start = before.utf8ByteSize ∧ stop = start + word.utf8ByteSize := by
  constructor
  · intro h
    simp only [slice?, Option.bind_eq_bind, Option.bind_eq_some_iff, Option.pure_def,
      pos?_eq_some_iff] at h
    obtain ⟨first, rfl, last, rfl, slice, hs, hcopy⟩ := h
    unfold String.slice? at hs
    split at hs
    · next hle =>
      obtain rfl := Option.some.inj hs
      obtain ⟨before, after, hfirst, hlast⟩ :=
        String.copy_slice_eq_iff_splits.1 ⟨hle, Option.some.inj hcopy⟩
      refine ⟨before, after, hlast.eq_append, ?_, ?_⟩
      · rw [hfirst.offset_eq_rawEndPos]
        rfl
      · rw [hfirst.offset_eq_rawEndPos, hlast.offset_eq_rawEndPos]
        exact String.utf8ByteSize_append
    · simp at hs
  · rintro ⟨before, after, rfl, rfl, rfl⟩
    have hfirst : (before.rawEndPos).IsValid (before ++ word ++ after) :=
      String.Pos.Raw.isValid_iff_exists_append.2 ⟨before, word ++ after, String.append_assoc, rfl⟩
    have hlast : ((before ++ word).rawEndPos).IsValid (before ++ word ++ after) :=
      String.Pos.Raw.isValid_iff_exists_append.2 ⟨before ++ word, after, rfl, rfl⟩
    have hcopy := String.copy_slice_eq_iff_splits.2 ⟨before, after,
      (⟨String.append_assoc, rfl⟩ : (String.Pos.mk _ hfirst).Splits before (word ++ after)),
      (⟨rfl, rfl⟩ : (String.Pos.mk _ hlast).Splits (before ++ word) after)⟩
    obtain ⟨hle, hcopy⟩ := hcopy
    have hpos : (before ++ word ++ after).pos? ⟨before.utf8ByteSize⟩ = some ⟨_, hfirst⟩ :=
      pos?_eq_some_iff.2 rfl
    have hstop : (before ++ word ++ after).pos? ⟨before.utf8ByteSize + word.utf8ByteSize⟩ =
        some ⟨_, hlast⟩ := pos?_eq_some_iff.2 String.utf8ByteSize_append
    simp only [slice?, hpos, hstop, String.slice?, dif_pos hle, Option.bind_eq_bind,
      Option.bind_some, Option.pure_def, hcopy]

theorem slice?_of_toList {text : String} {before cs after : List Char}
    (h : text.toList = before ++ cs ++ after) :
    slice? text (size before) (size before + size cs) = some (String.ofList cs) := by
  refine slice?_eq_some_iff.2 ⟨String.ofList before, String.ofList after, ?_, rfl, rfl⟩
  rw [← String.ofList_append, ← String.ofList_append, ← h, String.ofList_toList]

end TriggerRule.Text
