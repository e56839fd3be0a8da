import ReefLink.Config.Candidate
import Mathlib.Data.List.Induction
/-!
# One candidate per bus address

`bestCandidates` folds the candidates it finds (`Candidate.admissible`: the present modules of the
status payload that have an integer address, then the configured modules that have an address,
then the Trident when asked for) into a list sorted by address, adding each with `Candidate.add`.

The result is described without the fold: it is sorted strictly by address, so it has one entry
per address; it has an entry at exactly the addresses some candidate has; and the entry at an
address is `Candidate.bestAt`, the first candidate there with a hardware type, or the first
candidate there when none has one. The fold keeps this as its invariant (`find?_add`,
`bestAt_concat`), whatever the order in which typed and untyped candidates of one address come,
and across the three sources. Main statement: `bestCandidates_spec`.
-/

namespace ReefLink

namespace Candidate

/-- **The candidates a merge visits**, in order: the present modules of the status payload with
an integer address, the configured modules with an address, and the Trident when it is asked for
and has an address. -/
def admissible (s : Status) (includeTrident : Bool) : List Candidate :=
  (match s.raw with
    | some raw => (presentModules raw.modules).filterMap ofModule?
    | none => []) ++
  (s.config.mconf.getD []).filterMap ofConfig? ++
  (if includeTrident then (ofTrident? s).toList else [])

/-- The merge of candidates, visited in order. -/
def merge (cs : List Candidate) : List Candidate := cs.foldl (fun acc c => add c acc) []

/-- The entry an address keeps when a candidate comes to it: the one it had, unless that one has
no hardware type and the new one has. -/
def keep : Option Candidate → Candidate → Candidate
  | none, c => c
  | some k, c => if replaces k c then c else k

/-- **The candidate of an address**: among the candidates at `a`, in order, the first with a
hardware type, or the first when none has one. -/
def bestAt (a : Int) (cs : List Candidate) : Option Candidate :=
  ((cs.filter (·.abaddr = a)).find? (·.hwtype.isSome)).or (cs.filter (·.abaddr = a)).head?

theorem bestCandidates_eq (s : Status) (includeTrident : Bool) :
    bestCandidates s includeTrident = merge (admissible s includeTrident) := rfl

theorem merge_concat (cs : List Candidate) (c : Candidate) :
    merge (cs ++ [c]) = add c (merge cs) := by
  simp [merge, List.foldl_append]

/-! ### Adding one candidate -/

/-- What `add` puts in a list is the candidate or what was there. -/
theorem mem_add {c x : Candidate} {acc : List Candidate} (h : x ∈ add c acc) : x = c ∨ x ∈ acc := by
  induction acc with
  | nil => simpa [add] using h
  | cons k rest ih =>
    simp only [add] at h
    split_ifs at h
    · simpa using h
    · simp only [List.mem_cons] at h
      rcases h with rfl | h
      · exact .inl rfl
      · exact .inr (List.mem_cons_of_mem _ h)
    · exact .inr h
    · simp only [List.mem_cons] at h
      rcases h with rfl | h
      · exact .inr (List.mem_cons_self ..)
      · rcases ih h with rfl | h
        · exact .inl rfl
        · exact .inr (List.mem_cons_of_mem _ h)

/-- **Adding keeps a list sorted strictly by address.** -/
theorem add_sorted {c : Candidate} {acc : List Candidate}
    (h : acc.Pairwise (·.abaddr < ·.abaddr)) : (add c acc).Pairwise (·.abaddr < ·.abaddr) := by
  induction acc with
  | nil => simp [add]
  | cons k rest ih =>
    rw [List.pairwise_cons] at h
    obtain ⟨hk, hrest⟩ := h
    unfold add
    split_ifs with hlt heq
    · -- in front: below `k`, hence below all after it
      refine List.pairwise_cons.2 ⟨fun x hx => ?_, List.pairwise_cons.2 ⟨hk, hrest⟩⟩
      rcases List.mem_cons.1 hx with rfl | hx
      · exact hlt
      · exact Int.lt_trans hlt (hk x hx)
    · exact List.pairwise_cons.2 ⟨fun x hx => heq ▸ hk x hx, hrest⟩
    · exact List.pairwise_cons.2 ⟨hk, hrest⟩
    · -- further on: what `add` puts after `k` is above it
      refine List.pairwise_cons.2 ⟨fun x hx => ?_, ih hrest⟩
      rcases mem_add hx with rfl | hx
      · omega
      · exact hk x hx

/-- In a sorted list nothing sits at an address below its head's. -/
theorem find?_eq_none_of_lt {k : Candidate} {rest : List Candidate} {a : Int}
    (h : (k :: rest).Pairwise (·.abaddr < ·.abaddr)) (ha : a < k.abaddr) :
    (k :: rest).find? (·.abaddr = a) = none := by
  rw [List.find?_eq_none]
  intro x hx hxa
  have hxa : x.abaddr = a := by simpa using hxa
  rcases List.mem_cons.1 hx with rfl | hx
  · omega
  · have := (List.pairwise_cons.1 h).1 x hx
    omega

/-- **The entry at an address after adding**: the candidate's address keeps what `keep` makes of
the entry it had and the candidate; every other address keeps its entry. -/
theorem find?_add {c : Candidate} {acc : List Candidate} (a : Int)
    (h : acc.Pairwise (·.abaddr < ·.abaddr)) :
    (add c acc).find? (·.abaddr = a) =
      if c.abaddr = a then some (keep (acc.find? (·.abaddr = a)) c)
      else acc.find? (·.abaddr = a) := by
  induction acc with
  | nil => by_cases ha : c.abaddr = a <;> simp [add, keep, ha]
  | cons k rest ih =>
    have hk := (List.pairwise_cons.1 h).1
    by_cases hlt : c.abaddr < k.abaddr
    · rw [add, if_pos hlt]
      by_cases ha : c.abaddr = a
      · rw [if_pos ha, find?_eq_none_of_lt h (ha ▸ hlt)]
        simp [ha, keep]
      · rw [if_neg ha]
        simp [ha]
    by_cases heq : c.abaddr = k.abaddr
    · rw [add, if_neg hlt, if_pos heq]
      by_cases ha : c.abaddr = a
      · have hka : k.abaddr = a := heq ▸ ha
        rw [if_pos ha]
        cases hrep : replaces k c <;> simp [keep, hrep, ha, hka]
      · have hka : ¬ k.abaddr = a := heq ▸ ha
        rw [if_neg ha]
        cases hrep : replaces k c <;> simp [ha, hka]
    · rw [add, if_neg hlt, if_neg heq]
      by_cases hka : k.abaddr = a
      · have hca : ¬ c.abaddr = a := by omega
        rw [if_neg hca]
        simp [hka]
      · simp only [List.find?_cons, hka, decide_false]
        exact ih (List.pairwise_cons.1 h).2

/-! ### The candidate of an address -/

/-- **The candidate of an address after one more**: a candidate at `a` gives `a` what `keep`
makes of the candidate it had and the new one; other candidates leave it. -/
theorem bestAt_concat (a : Int) (cs : List Candidate) (c : Candidate) :
    bestAt a (cs ++ [c]) = if c.abaddr = a then some (keep (bestAt a cs) c) else bestAt a cs := by
  by_cases ha : c.abaddr = a
  · rw [if_pos ha]
    simp only [bestAt, List.filter_append, List.filter_cons, ha, decide_true, if_true,
      List.filter_nil, List.find?_append, List.head?_append]
    cases hf : (cs.filter (·.abaddr = a)).find? (·.hwtype.isSome) with
    | some k =>
      have hk : k.hwtype ≠ none := by simpa [Option.isSome_iff_ne_none] using List.find?_some hf
      simp [keep, replaces, hk]
    | none =>
      cases hh : (cs.filter (·.abaddr = a)).head? with
      | none => cases hc : c.hwtype <;> simp [keep, hc]
      | some k =>
        have hk : k.hwtype = none := by
          have hmem : k ∈ cs.filter (·.abaddr = a) := List.mem_of_mem_head? hh
          simpa using List.find?_eq_none.1 hf k hmem
        cases hc : c.hwtype <;> simp [keep, replaces, hk, hc]
  · rw [if_neg ha]
    simp [bestAt, List.filter_append, ha]

/-- An address has a candidate exactly when some candidate is at it. -/
theorem bestAt_isSome_iff (a : Int) (cs : List Candidate) :
    (bestAt a cs).isSome ↔ ∃ c ∈ cs, c.abaddr = a := by
  unfold bestAt
  cases hf : (cs.filter (·.abaddr = a)).find? (·.hwtype.isSome) with
  | some k =>
    have hk := List.mem_of_find?_eq_some hf
    simp only [List.mem_filter, decide_eq_true_eq] at hk
    exact iff_of_true rfl ⟨k, hk⟩
  | none =>
    simp only [Option.none_or, Option.isSome_iff_ne_none, ne_eq, List.head?_eq_none_iff]
    simp [List.filter_eq_nil_iff]

/-- **The candidate an address keeps has a hardware type exactly when one of its candidates
has.** -/
theorem hwtype_of_bestAt {a : Int} {cs : List Candidate} {k : Candidate}
    (h : bestAt a cs = some k) :
    k.hwtype.isSome ↔ ∃ c ∈ cs, c.abaddr = a ∧ c.hwtype.isSome := by
  unfold bestAt at h
  cases hf : (cs.filter (·.abaddr = a)).find? (·.hwtype.isSome) with
  | some k' =>
    rw [hf, Option.some_or, Option.some.injEq] at h
    subst h
    have hk := List.mem_of_find?_eq_some hf
    simp only [List.mem_filter, decide_eq_true_eq] at hk
    have ht : k'.hwtype.isSome = true := by simpa using List.find?_some hf
    exact iff_of_true ht ⟨k', hk.1, hk.2, ht⟩
  | none =>
    -- no candidate at `a` has a type, the first one included
    have hnone := List.find?_eq_none.1 hf
    simp only [List.mem_filter, decide_eq_true_eq, and_imp] at hnone
    rw [hf, Option.none_or] at h
    have hk := List.mem_filter.1 (List.mem_of_mem_head? h)
    simp only [decide_eq_true_eq] at hk
    constructor
    · intro ht
      exact absurd ht (hnone k hk.1 hk.2)
    · rintro ⟨c, hc, hca, ht⟩
      exact absurd ht (hnone c hc hca)

/-! ### The whole merge -/

/-- A merge is sorted strictly by address. -/
theorem merge_sorted (cs : List Candidate) : (merge cs).Pairwise (·.abaddr < ·.abaddr) := by
  induction cs using List.reverseRecOn with
  | nil => exact List.Pairwise.nil
  | append_singleton cs c ih =>
    rw [merge_concat]
    exact add_sorted ih

/-- **The entry of a merge at an address is the candidate of that address.** The fold keeps
`bestAt` as its invariant: `find?_add` and `bestAt_concat` take the same step. -/
theorem find?_merge (cs : List Candidate) (a : Int) :
    (merge cs).find? (·.abaddr = a) = bestAt a cs := by
  induction cs using List.reverseRecOn with
  | nil => rfl
  | append_singleton cs c ih =>
    rw [merge_concat, find?_add a (merge_sorted cs), ih, bestAt_concat]

/-- In a list sorted strictly by address, each entry is the one found at its address. -/
theorem find?_of_mem {l : List Candidate} {c : Candidate}
    (h : l.Pairwise (·.abaddr < ·.abaddr)) (hc : c ∈ l) : l.find? (·.abaddr = c.abaddr) = some c := by
  induction l with
  | nil => cases hc
  | cons k rest ih =>
    rw [List.pairwise_cons] at h
    rcases List.mem_cons.1 hc with rfl | hc
    · simp
    · have hne : k.abaddr ≠ c.abaddr := Int.ne_of_lt (h.1 c hc)
      simp [hne, ih h.2 hc]

/-- **The merged candidates**: sorted strictly by address, so one entry per address; an entry at
exactly the addresses of the admissible candidates; at each address the first admissible
candidate there with a hardware type, or the first there when none has one; so an entry has a
hardware type exactly when a candidate at its address has. -/
theorem bestCandidates_spec (s : Status) (includeTrident : Bool) :
    (bestCandidates s includeTrident).Pairwise (·.abaddr < ·.abaddr) ∧
    (∀ a, (∃ c ∈ bestCandidates s includeTrident, c.abaddr = a) ↔
      ∃ c ∈ admissible s includeTrident, c.abaddr = a) ∧
    (∀ a, (bestCandidates s includeTrident).find? (·.abaddr = a) =
      bestAt a (admissible s includeTrident)) ∧
    ∀ c ∈ bestCandidates s includeTrident,
      (c.hwtype.isSome ↔ ∃ c' ∈ admissible s includeTrident, c'.abaddr = c.abaddr ∧ c'.hwtype.isSome) := by
  rw [bestCandidates_eq]
  refine ⟨merge_sorted _, fun a => ?_, find?_merge _, fun c hc => ?_⟩
  · have h := @List.find?_isSome _ (merge (admissible s includeTrident)) (·.abaddr = a)
    rw [find?_merge, bestAt_isSome_iff] at h
    simpa using h.symm
  · have hfind := find?_of_mem (merge_sorted _) hc
    rw [find?_merge] at hfind
    exact hwtype_of_bestAt hfind

end Candidate

end ReefLink
