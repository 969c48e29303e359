import TriggerRule.Proofs.Json.RoundTrip

/-!
# The entries of an object

What stands under a key does not depend on the order of the entries (`once?_perm`), nor on entries
with other keys (`once?_append`), and there is nothing if the key is not there exactly once
(`once?_eq_none_of_count_ne`). So known entries can be told from an object in which they are mingled
with others (`Mingled.once?_eq`), and the others only count for its brackets (`Mingled.depth_le`).
-/

namespace TriggerRule.Json

variable {key : String} {value : Json} {entries known others : List (String × Json)} {n room : Nat}

/-! ## Looking up a key -/

theorem once?_eq_some_iff : once? key entries = some value ↔
    entries.filter (fun entry => entry.1 == key) = [(key, value)] := by
  unfold once?
  split
  · next k v heq =>
    have hk : (k == key) = true := by
      have hmem : (k, v) ∈ entries.filter fun entry => entry.1 == key := by
        rw [heq]
        exact List.mem_singleton_self _
      exact (List.mem_filter.1 hmem).2
    rw [heq]
    simp [beq_iff_eq.1 hk]
  · next hne =>
    constructor
    · intro h
      cases h
    · intro heq
      exact absurd heq (hne key value)

theorem once?_perm (h : entries.Perm others) : once? key entries = once? key others := by
  ext value
  rw [once?_eq_some_iff, once?_eq_some_iff]
  have hf := h.filter fun entry => entry.1 == key
  constructor
  · intro heq
    rw [heq] at hf
    exact List.perm_singleton.1 hf.symm
  · intro heq
    rw [heq] at hf
    exact List.perm_singleton.1 hf

/-- Entries with other keys are passed over. -/
theorem once?_append (h : ∀ entry ∈ others, entry.1 ≠ key) :
    once? key (entries ++ others) = once? key entries := by
  have hnone : others.filter (fun entry => entry.1 == key) = [] := by
    rw [List.filter_eq_nil_iff]
    intro entry he
    simpa using h entry he
  rw [once?, once?, List.filter_append, hnone, List.append_nil]

/-- A key that is missing or repeated has no value. -/
theorem once?_eq_none_of_count_ne (h : (entries.map Prod.fst).count key ≠ 1) :
    once? key entries = none := by
  rw [Option.eq_none_iff_forall_ne_some]
  intro value hsome
  apply h
  rw [List.count_eq_countP, List.countP_map, List.countP_eq_length_filter]
  exact congrArg List.length (once?_eq_some_iff.1 hsome)

theorem eq_of_once?_of_mem {other : Json} (h : once? key entries = some value)
    (hm : (key, other) ∈ entries) : other = value := by
  have hmem : (key, other) ∈ entries.filter fun entry => entry.1 == key :=
    List.mem_filter.2 ⟨hm, beq_self_eq_true key⟩
  rw [once?_eq_some_iff.1 h, List.mem_singleton] at hmem
  exact (Prod.mk.inj hmem).2

/-! ## The values of the entries -/

theorem plainEntries_iff : PlainEntries entries ↔ ∀ entry ∈ entries, entry.2.Plain := by
  induction entries with
  | nil => simp [PlainEntries]
  | cons entry entries ih => rw [PlainEntries, ih, List.forall_mem_cons]

theorem entriesDepth_le_iff : entriesDepth entries ≤ n ↔ ∀ entry ∈ entries, entry.2.depth ≤ n := by
  induction entries with
  | nil => simp [entriesDepth]
  | cons entry entries ih => rw [entriesDepth, Nat.max_le, ih, List.forall_mem_cons]

/-! ## Known entries among others -/

/-- The known entries in any order, and among them others with other keys, as many as one likes.
These hold any plain values with no more brackets open at once than there is room for. -/
def Mingled (room : Nat) (known entries : List (String × Json)) : Prop :=
  ∃ others, entries.Perm (known ++ others) ∧
    ∀ entry ∈ others, entry.1 ∉ known.map Prod.fst ∧ entry.2.Plain ∧ entry.2.depth ≤ room

theorem Mingled.refl (room : Nat) (known : List (String × Json)) : Mingled room known known :=
  ⟨[], by simp, by simp⟩

theorem Mingled.once?_eq (h : Mingled room known entries) (hk : key ∈ known.map Prod.fst) :
    once? key entries = once? key known := by
  obtain ⟨others, hperm, hothers⟩ := h
  rw [once?_perm hperm, once?_append]
  rintro entry he rfl
  exact (hothers entry he).1 hk

theorem Mingled.mem_cases (h : Mingled room known entries) {entry : String × Json}
    (he : entry ∈ entries) : entry ∈ known ∨ entry.2.Plain ∧ entry.2.depth ≤ room := by
  obtain ⟨others, hperm, hothers⟩ := h
  rcases List.mem_append.1 (hperm.subset he) with hk | ho
  · exact .inl hk
  · exact .inr (hothers entry ho).2

theorem Mingled.plain (h : Mingled room known entries) (hk : ∀ entry ∈ known, entry.2.Plain) :
    (object entries).Plain := by
  rw [Plain, plainEntries_iff]
  intro entry he
  rcases h.mem_cases he with hknown | hother
  · exact hk entry hknown
  · exact hother.1

theorem Mingled.depth_le (h : Mingled room known entries) (hk : ∀ entry ∈ known, entry.2.depth ≤ n)
    (hn : room ≤ n) : (object entries).depth ≤ n + 1 := by
  rw [depth, Nat.add_le_add_iff_right, entriesDepth_le_iff]
  intro entry he
  rcases h.mem_cases he with hknown | hother
  · exact hk entry hknown
  · exact Nat.le_trans hother.2 hn

end TriggerRule.Json
