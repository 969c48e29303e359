import TriggerRule.Failure

/-!
# The anchors of a failure

A failure is a chain: the groups around the refused token from the outside inwards, and the token
last. `anchors` lists where its links are anchored, and what maps these alike maps the failure alike
(`map_congr`). A failure that is anchored in tokens depends on no token behind the last site
(`anchored_congr`).
-/

namespace TriggerRule

namespace Failure

variable {α β : Type}

/-- The anchors of the links of the chain, the outermost group first and the refused token last. -/
def anchors : Failure α → List α
  | raised _ a => [a]
  | within _ a inner => a :: inner.anchors

@[simp] theorem anchors_wrap (groups : List (Enclosure × α)) (cause : Cause) (a : α) :
    (wrap groups cause a).anchors = groups.map Prod.snd ++ [a] := by
  induction groups with
  | nil => rfl
  | cons group groups ih => exact congrArg (group.2 :: ·) ih

theorem anchors_map (f : α → β) (failure : Failure α) :
    (failure.map f).anchors = failure.anchors.map f := by
  induction failure with
  | raised cause a => rfl
  | within enclosure a inner ih => exact congrArg (f a :: ·) ih

theorem map_wrap (f : α → β) (groups : List (Enclosure × α)) (cause : Cause) (a : α) :
    (wrap groups cause a).map f = wrap (groups.map (Prod.map id f)) cause (f a) := by
  induction groups with
  | nil => rfl
  | cons group groups ih => exact congrArg (within group.1 (f group.2)) ih

theorem map_map {γ : Type} (f : α → β) (g : β → γ) (failure : Failure α) :
    (failure.map f).map g = failure.map (g ∘ f) := by
  induction failure with
  | raised cause a => rfl
  | within enclosure a inner ih => exact congrArg (within enclosure (g (f a))) ih

theorem map_congr {f g : α → β} {failure : Failure α} (h : ∀ a ∈ failure.anchors, f a = g a) :
    failure.map f = failure.map g := by
  induction failure with
  | raised cause a => rw [map, map, h a (List.mem_singleton_self a)]
  | within enclosure a inner ih =>
    obtain ⟨ha, hinner⟩ := List.forall_mem_cons.1 h
    rw [map, map, ha, ih hinner]

end Failure

/-! ## Tokens with a beginning in common -/

theorem Site.anchor_congr {tokens others : List Token} {bound : Nat} {site : Site}
    (h : others.take bound = tokens.take bound) (hlt : site.index < bound) :
    site.anchor others = site.anchor tokens := by
  have hget : others[site.index]? = tokens[site.index]? := by
    rw [← List.getElem?_take_of_lt hlt, h, List.getElem?_take_of_lt hlt]
  have htake : others.take site.index = tokens.take site.index := by
    rw [← Nat.min_eq_left (Nat.le_of_lt hlt), ← List.take_take, h, List.take_take]
  rw [anchor, anchor, Site.token, Site.token, Site.position, Site.position, hget, htake]

/-- What a failure shows of the tokens stands before any bound on the indices of its sites. -/
theorem Failure.anchored_congr {tokens others : List Token} {bound : Nat}
    {failure : Failure Site} (h : others.take bound = tokens.take bound)
    (hlt : ∀ site ∈ failure.anchors, site.index < bound) :
    failure.anchored others = failure.anchored tokens := by
  apply map_congr
  intro site hs
  exact Site.anchor_congr h (hlt site hs)

end TriggerRule
