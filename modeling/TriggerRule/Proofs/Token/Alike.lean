import Mathlib.Data.List.Forall2
import TriggerRule.Proofs.Reference.Listing

/-!
# Token sequences that are read alike

A reader takes from a token no more than its kind, and the text if it is a literal; the mark of a
literal means nothing to it, and neither does what comes behind the end of the text. `Alike` says so
of two tokens, and `Agree` of two sequences. Where two sequences agree the same phrases start
(`Phrase.read?_congr`), so from there on a nest reads them alike. Main statements:
`Rule.parseSites_congr` and `Reference.listSites_congr`, sequences that agree are read as the same
rule and as the same list, or are refused at the same site.
-/

namespace TriggerRule

namespace Token

/-! ## What a reader takes from tokens -/

/-- The tokens are the same to a reader. -/
structure Alike (t u : Token) : Prop where
  /-- Literals may be written with different marks. -/
  kind : t.kind = u.kind ∨ t.isLiteral = true ∧ u.isLiteral = true
  text : t.isLiteral = true → t.text = u.text

instance (t u : Token) : Decidable (Alike t u) :=
  decidable_of_iff ((t.kind = u.kind ∨ t.isLiteral = true ∧ u.isLiteral = true) ∧
      (t.isLiteral = true → t.text = u.text))
    ⟨fun h => ⟨h.1, h.2⟩, fun h => ⟨h.kind, h.text⟩⟩

/-- The token sequences are the same to a reader. -/
inductive Agree : List Token → List Token → Prop
  | nil : Agree [] []
  | cons {t u : Token} {ts us : List Token} (ht : Alike t u) (h : Agree ts us) :
    Agree (t :: ts) (u :: us)
  /-- Whatever comes behind the end of the text. -/
  | ended {t u : Token} {ts us : List Token} (ht : t.kind = .endOfText) (hu : u.kind = .endOfText) :
    Agree (t :: ts) (u :: us)

variable {t u : Token} {ts us rest others : List Token}

theorem Alike.refl (t : Token) : Alike t t := ⟨.inl rfl, fun _ => rfl⟩

theorem Alike.isLiteral_eq (h : Alike t u) : t.isLiteral = u.isLiteral := by
  rcases h.kind with hk | ⟨ht, hu⟩
  · rw [isLiteral, isLiteral, hk]
  · rw [ht, hu]

theorem Alike.symm (h : Alike t u) : Alike u t := by
  refine ⟨?_, fun hu => (h.text (h.isLiteral_eq.trans hu)).symm⟩
  rcases h.kind with hk | ⟨ht, hu⟩
  · exact .inl hk.symm
  · exact .inr ⟨hu, ht⟩

/-- Only literals can differ in kind. -/
theorem Alike.kind_eq (h : Alike t u) {kind : Kind} (ht : t.kind = kind)
    (hl : kind.isLiteral = false) : u.kind = kind := by
  rcases h.kind with hk | ⟨hlit, -⟩
  · rw [← hk, ht]
  · exact absurd ht (Phrase.kind_ne_of_isLiteral hlit hl)

theorem Agree.symm (h : Agree ts us) : Agree us ts := by
  induction h with
  | nil => exact .nil
  | cons ht h ih => exact .cons ht.symm ih
  | ended ht hu => exact .ended hu ht

theorem agree_of_forall₂ (h : List.Forall₂ Alike ts us) : Agree ts us := by
  induction h with
  | nil => exact .nil
  | cons ht h ih => exact .cons ht ih

theorem Agree.append_left (ts : List Token) (h : Agree rest others) :
    Agree (ts ++ rest) (ts ++ others) := by
  induction ts with
  | nil => exact h
  | cons t ts ih => exact .cons (.refl t) ih

/-- What comes before the end of the text has its counterpart, token by token. -/
theorem Agree.exists_append (h : Agree (ts ++ rest) others) (hts : ∀ t ∈ ts, t.kind ≠ .endOfText) :
    ∃ us more, others = us ++ more ∧ List.Forall₂ Alike ts us ∧ Agree rest more := by
  induction ts generalizing others with
  | nil => exact ⟨[], others, rfl, .nil, h⟩
  | cons t ts ih =>
    obtain ⟨ht, hts⟩ := List.forall_mem_cons.1 hts
    cases h with
    | cons hu h =>
      obtain ⟨us, more, rfl, hs, hmore⟩ := ih h hts
      exact ⟨_ :: us, more, rfl, .cons hu hs, hmore⟩
    | ended he => exact absurd he ht

theorem Agree.endOfText_iff (h : Agree ts us) :
    ts.head?.map Token.kind = some .endOfText ↔ us.head?.map Token.kind = some .endOfText := by
  cases h with
  | nil => rfl
  | cons ht h =>
    simp only [List.head?_cons, Option.map_some, Option.some.injEq]
    exact ⟨fun hk => ht.kind_eq hk rfl, fun hk => ht.symm.kind_eq hk rfl⟩
  | ended ht hu => simp [ht, hu]

end Token

open Token

/-! ## Phrases -/

namespace Phrase

variable {ts us : List Token} {phrase : Phrase}

/-- A phrase is also written with other tokens that are the same to a reader. -/
theorem Written.alike (h : Written ts phrase) (ha : List.Forall₂ Alike ts us) :
    Written us phrase := by
  cases h with
  | and ht =>
    obtain _ | ⟨ha, _ | _⟩ := ha
    exact .and (ha.kind_eq ht rfl)
  | or ht =>
    obtain _ | ⟨ha, _ | _⟩ := ha
    exact .or (ha.kind_eq ht rfl)
  | close ht =>
    obtain _ | ⟨ha, _ | _⟩ := ha
    exact .close (ha.kind_eq ht rfl)
  | group ht =>
    obtain _ | ⟨ha, _ | _⟩ := ha
    exact .group (ha.kind_eq ht rfl)
  | negation ht hu =>
    obtain _ | ⟨hta, _ | ⟨hua, _ | _⟩⟩ := ha
    exact .negation (hta.kind_eq ht rfl) (hua.kind_eq hu rfl)
  | value hp he hv =>
    obtain _ | ⟨hpa, _ | ⟨hea, _ | ⟨hva, _ | _⟩⟩⟩ := ha
    rw [hpa.text hp, hva.text hv]
    exact .value (hpa.isLiteral_eq ▸ hp) (hea.kind_eq he rfl) (hva.isLiteral_eq ▸ hv)
  | regex hp he hv =>
    obtain _ | ⟨hpa, _ | ⟨hea, _ | ⟨hva, _ | _⟩⟩⟩ := ha
    rw [hpa.text hp, hva.text hv]
    exact .regex (hpa.isLiteral_eq ▸ hp) (hea.kind_eq he rfl) (hva.isLiteral_eq ▸ hv)
  | hash hp he hw ho ht hc hs hr =>
    obtain _ | ⟨hpa, _ | ⟨hea, _ | ⟨hwa, _ | ⟨hoa, _ | ⟨hta, _ | ⟨hca, _ | ⟨hsa,
      _ | ⟨hra, _ | _⟩⟩⟩⟩⟩⟩⟩⟩ := ha
    rw [hpa.text hp, hta.text ht, hsa.text hs]
    exact .hash (hpa.isLiteral_eq ▸ hp) (hea.kind_eq he rfl) (hwa.kind_eq hw rfl)
      (hoa.kind_eq ho rfl) (hta.isLiteral_eq ▸ ht) (hca.kind_eq hc rfl) (hsa.isLiteral_eq ▸ hs)
      (hra.kind_eq hr rfl)

theorem read?_of_agree (h : Agree ts us) (hp : read? ts = some phrase) :
    read? us = some phrase := by
  obtain ⟨vs, rest, rfl, hv⟩ := exists_written_of_read? hp
  obtain ⟨ws, more, rfl, hs, -⟩ := h.exists_append hv.kind_ne_endOfText
  exact (hv.alike hs).read?_append more

theorem read?_congr (h : Agree ts us) : read? ts = read? us := by
  apply Option.ext
  intro phrase
  exact ⟨read?_of_agree h, read?_of_agree h.symm⟩

end Phrase

/-! ## Rules -/

theorem Nest.readFrom_congr {ts us : List Token} (h : Agree ts us) (limit : Nat) (nest : Nest)
    (index : Nat) : nest.readFrom limit index ts = nest.readFrom limit index us := by
  induction ts using Phrase.induction_phrases generalizing us nest index with
  | stop ts hp =>
    have hu : Phrase.read? us = none := (Phrase.read?_congr h).symm.trans hp
    rw [readFrom_of_read? hp, readFrom_of_read? hu]
    simp only [finish, h.endOfText_iff]
  | phrase vs phrase rest hv ih =>
    obtain ⟨ws, more, rfl, hs, hmore⟩ := h.exists_append hv.kind_ne_endOfText
    have hw := hv.alike hs
    cases hstep : nest.step limit index phrase with
    | error failure => rw [readFrom_append_of_error hv hstep, readFrom_append_of_error hw hstep]
    | ok next =>
      rw [readFrom_append_of_ok hv hstep, readFrom_append_of_ok hw hstep, hv.length, hw.length]
      exact ih hmore next _

theorem Rule.parseSites_congr {ts us : List Token} (h : Agree ts us) :
    parseSites ts = parseSites us := Nest.readFrom_congr h depthLimit Nest.start 0

/-! ## Lists -/

namespace Reference

variable {t u : Token} {ts us : List Token} {due : Bool} {r : Reference} {cause : Cause}

theorem Denotes.alike (h : Denotes t r) (ha : Alike t u) : Denotes u r :=
  ⟨ha.isLiteral_eq ▸ h.isLiteral, ha.text h.isLiteral ▸ h.parse_eq⟩

theorem Objects.alike (h : Objects due (some t) cause) (ha : Alike t u) :
    Objects due (some u) cause := by
  cases h with
  | endOfText he => exact .endOfText (ha.kind_eq he rfl)
  | literal hl => exact .literal (ha.isLiteral_eq ▸ hl)
  | badReference hl hr => exact .badReference (ha.isLiteral_eq ▸ hl) (ha.text hl ▸ hr)
  | comma hc => exact .comma (ha.kind_eq hc rfl)
  | other hl hc he =>
    refine .other (ha.isLiteral_eq ▸ hl) (fun hk => ?_) fun hk => ?_
    · exact hc (ha.symm.kind_eq hk rfl)
    · exact he (ha.symm.kind_eq hk rfl)

theorem listFrom_congr (h : Agree ts us) (index : Nat) (due : Bool) :
    listFrom index due ts = listFrom index due us := by
  induction h generalizing index due with
  | nil => rfl
  | @cons t u ts us ha h ih =>
    rcases objects_or_goes_on due t with ⟨cause, ho⟩ | ⟨rfl, r, ht⟩ | ⟨rfl, hc | he⟩
    · have hleft : Objects due (t :: ts).head? cause := ho
      have hright : Objects due (u :: us).head? cause := ho.alike ha
      rw [hleft.listFrom_eq, hright.listFrom_eq]
    · rw [listFrom_denotes ht, listFrom_denotes (ht.alike ha), ih]
    · rw [listFrom_comma hc, listFrom_comma (ha.kind_eq hc rfl), ih]
    · rw [listFrom_endOfText he, listFrom_endOfText (ha.kind_eq he rfl)]
  | ended ht hu => simp only [listFrom, ht, hu]

theorem listSites_congr (h : Agree ts us) : listSites ts = listSites us := listFrom_congr h 0 true

end Reference

end TriggerRule
