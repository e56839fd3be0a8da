import ReefLink.Config.Snapshot
import ReefLink.Proofs.Endpoints
import Mathlib.Data.List.TakeDrop
/-!
# The shape of a device line

`MxmDevice.ofLine?` reads a device line in deterministic steps: the name up to the first opening
parenthesis, the id up to the next closing one, then dashes, keywords, words and the blanks
between them, and the status after the last dash. `DeviceLine.Shape` states the form of such a
line as a grammar, where the blanks around the parts are chosen freely: blanks, a name with no
opening parenthesis that is not all blank, an id in parentheses with no closing parenthesis,
blanks, a dash, blanks, `Rev`, blanks, the revision word, blanks, `Ser`, blanks, `#:`, blanks,
the serial word, blanks, a dash, blanks, a status of one or more characters on one line, and
blanks.

`ofLine?_shape` says that the reader accepts exactly the lines of that shape, reading the name
and the status trimmed, so that a parsed device has a name, a revision and a serial number, and
that a line written from such parts reads back. The status text may be all blank: a line that
ends in a dash and a blank reads with an empty status (`blank_status_reads`).
-/

namespace ReefLink

/-! ## Blanks at the ends -/

namespace Text

theorem dropBlank_append_of_all {w : List Char} (hw : w.all isBlank = true) (r : List Char) :
    dropBlank (w ++ r) = dropBlank r :=
  List.dropWhile_append_of_pos fun _ ha => List.all_eq_true.1 hw _ ha

/-- A text that is not all blank keeps what follows it when its leading blanks are dropped. -/
theorem dropBlank_append_of_not_all {T : List Char} (hT : T.all isBlank = false) (r : List Char) :
    dropBlank (T ++ r) = dropBlank T ++ r := by
  have hne : (dropBlank T).isEmpty = false := by
    simpa [dropBlank, List.dropWhile_eq_nil_iff, List.all_eq_true] using hT
  rw [dropBlank, List.dropWhile_append, ← dropBlank, hne]
  rfl

theorem dropBlank_of_head {r : List Char} (hr : ∀ c ∈ r.head?, isBlank c = false) :
    dropBlank r = r := by
  cases r with
  | nil => rfl
  | cons c r => simp [dropBlank, hr c rfl]

theorem dropBlankEnd_append_of_all {w : List Char} (hw : w.all isBlank = true) (l : List Char) :
    dropBlankEnd (l ++ w) = dropBlankEnd l := by
  simp only [dropBlankEnd, List.reverse_append]
  rw [List.dropWhile_append_of_pos fun a ha => List.all_eq_true.1 hw a (List.mem_reverse.1 ha)]

/-- Every text is what is left once its trailing blanks are dropped, followed by those blanks. -/
theorem exists_blanks_dropBlankEnd (l : List Char) :
    ∃ w, w.all isBlank = true ∧ l = dropBlankEnd l ++ w := by
  refine ⟨(l.reverse.takeWhile isBlank).reverse, by simp [List.all_reverse], ?_⟩
  rw [dropBlankEnd, ← List.reverse_append, List.takeWhile_append_dropWhile, List.reverse_reverse]

theorem mem_of_mem_dropBlankEnd {c : Char} {l : List Char} (h : c ∈ dropBlankEnd l) : c ∈ l :=
  List.mem_reverse.1 ((List.dropWhile_sublist _).subset (List.mem_reverse.1 h))

theorem dropBlank_eq_nil_iff {l : List Char} : dropBlank l = [] ↔ l.all isBlank = true := by
  simp [dropBlank, List.dropWhile_eq_nil_iff]

/-- **A trimmed text is empty exactly when the text is all blank.** -/
theorem trim_ofList_eq_empty_iff (cs : List Char) :
    trim (String.ofList cs) = "" ↔ cs.all isBlank = true := by
  rw [trim, String.toList_ofList, String.ofList_eq_empty_iff, dropBlankEnd_eq_nil_iff,
    ← dropBlank_eq_nil_iff]
  constructor
  · intro h
    rw [← dropBlank_dropBlank]
    exact List.dropWhile_eq_nil_iff.2 h
  · intro h
    simp [h]

theorem trim_blanks_append {w : List Char} (hw : w.all isBlank = true) (N : List Char) :
    trim (String.ofList (w ++ N)) = trim (String.ofList N) := by
  simp only [trim, String.toList_ofList, dropBlank_append_of_all hw]

end Text

namespace DeviceLine

open Text

/-! ## The parts of a line -/

/-- Characters that are all blank, possibly none. -/
def Blanks (w : List Char) : Prop := w.all isBlank = true

instance (w : List Char) : Decidable (Blanks w) := inferInstanceAs (Decidable (_ = true))

/-- One or more blanks. -/
def Gap (w : List Char) : Prop := w ≠ [] ∧ Blanks w

instance (w : List Char) : Decidable (Gap w) := inferInstanceAs (Decidable (_ ∧ _))

/-- A word: one or more characters, none of them blank. -/
def Word (w : List Char) : Prop := w ≠ [] ∧ w.all (fun c => !isBlank c) = true

instance (w : List Char) : Decidable (Word w) := inferInstanceAs (Decidable (_ ∧ _))

/-- Characters that do not start with a blank. -/
def Solid (r : List Char) : Prop := ∀ c ∈ r.head?, isBlank c = false

/-- Characters that are empty or start with a blank. -/
def Loose (r : List Char) : Prop := ∀ c ∈ r.head?, isBlank c = true

theorem Word.solid_append {R : List Char} (hR : Word R) (r : List Char) : Solid (R ++ r) := by
  obtain ⟨c, R', rfl⟩ := List.exists_cons_of_ne_nil hR.1
  have hc : isBlank c = false := by simpa using (List.all_eq_true.1 hR.2 c List.mem_cons_self)
  simpa [Solid] using hc

theorem Gap.loose_append {w : List Char} (hw : Gap w) (r : List Char) : Loose (w ++ r) := by
  obtain ⟨c, w', rfl⟩ := List.exists_cons_of_ne_nil hw.1
  simpa [Loose] using List.all_eq_true.1 hw.2 c List.mem_cons_self

theorem solid_cons {c : Char} (hc : isBlank c = false) (r : List Char) : Solid (c :: r) := by
  simpa [Solid] using hc

/-! ## Each step of the reader -/

@[simp] theorem expect_eq_some_iff {c : Char} {cs rest : List Char} :
    expect c cs = some rest ↔ cs = c :: rest := by
  cases cs with
  | nil => simp [expect]
  | cons x xs =>
    by_cases h : x = c
    · subst h
      simp [expect]
    · simp [expect, h]

theorem keyword_eq_some_iff {w : String} {cs rest : List Char} :
    keyword w cs = some rest ↔ cs = w.toList ++ rest := by
  unfold keyword
  constructor
  · intro h
    split at h
    · rename_i hp
      cases h
      obtain ⟨t, rfl⟩ := List.isPrefixOf_iff_prefix.1 hp
      rw [← String.length_toList, List.drop_left]
    · cases h
  · rintro rfl
    rw [if_pos (List.isPrefixOf_iff_prefix.2 (List.prefix_append _ _)), ← String.length_toList,
      List.drop_left]

theorem dropBlank_append_of_solid {w r : List Char} (hw : Blanks w) (hr : Solid r) :
    dropBlank (w ++ r) = r := by
  rw [dropBlank_append_of_all hw, dropBlank_of_head hr]

/-- What comes before a character that is not blank, once blanks are dropped, is blanks. -/
theorem dropBlank_eq_iff {cs r : List Char} (hr : Solid r) :
    dropBlank cs = r ↔ ∃ w, Blanks w ∧ cs = w ++ r := by
  constructor
  · intro h
    refine ⟨cs.takeWhile isBlank, List.all_takeWhile, ?_⟩
    rw [← h]
    exact List.takeWhile_append_dropWhile.symm
  · rintro ⟨w, hw, rfl⟩
    exact dropBlank_append_of_solid hw hr

theorem blanks_eq_some {cs rest : List Char} (h : blanks cs = some rest) :
    ∃ w, Gap w ∧ cs = w ++ rest := by
  unfold blanks at h
  split at h
  · rename_i c tl
    split at h
    · rename_i hc
      cases h
      refine ⟨(c :: tl).takeWhile isBlank, ⟨by simp [hc], List.all_takeWhile⟩, ?_⟩
      exact List.takeWhile_append_dropWhile.symm
    · cases h
  · cases h

theorem blanks_append {w r : List Char} (hw : Gap w) (hr : Solid r) : blanks (w ++ r) = some r := by
  obtain ⟨c, w', rfl⟩ := List.exists_cons_of_ne_nil hw.1
  have hc : isBlank c = true := List.all_eq_true.1 hw.2 c List.mem_cons_self
  simp only [List.cons_append, blanks, hc, if_true]
  rw [← List.cons_append, dropBlank_append_of_all hw.2, dropBlank_of_head hr]

theorem word_eq_some {cs rest : List Char} {s : String} (h : word cs = some (s, rest)) :
    ∃ R, Word R ∧ cs = R ++ rest ∧ s = String.ofList R := by
  unfold word at h
  rw [List.span_eq_takeWhile_dropWhile] at h
  simp only at h
  split at h
  · cases h
  · rename_i hne
    simp only [Option.some.injEq, Prod.mk.injEq] at h
    obtain ⟨rfl, rfl⟩ := h
    refine ⟨_, ⟨?_, List.all_takeWhile⟩, List.takeWhile_append_dropWhile.symm, rfl⟩
    simpa using hne

theorem word_append {R r : List Char} (hR : Word R) (hr : Loose r) :
    word (R ++ r) = some (String.ofList R, r) := by
  have hstop : r.takeWhile (fun c => !isBlank c) = [] := by
    cases r with
    | nil => rfl
    | cons c r => simp [hr c rfl]
  have hkeep : r.dropWhile (fun c => !isBlank c) = r := by
    cases r with
    | nil => rfl
    | cons c r => simp [hr c rfl]
  have hall : ∀ a ∈ R, (!isBlank a) = true := List.all_eq_true.1 hR.2
  have hne : R.isEmpty = false := List.isEmpty_eq_false_iff.2 hR.1
  unfold word
  rw [List.span_eq_takeWhile_dropWhile, List.takeWhile_append_of_pos hall,
    List.dropWhile_append_of_pos hall, hstop, List.append_nil, hkeep]
  simp [hne]

/-- The text before the first `c` and the rest from it on. -/
theorem span_ne_eq_iff {c : Char} {l pre rest : List Char} :
    l.span (· ≠ c) = (pre, c :: rest) ↔ c ∉ pre ∧ l = pre ++ c :: rest := by
  rw [List.span_eq_takeWhile_dropWhile, Prod.mk.injEq]
  constructor
  · rintro ⟨hpre, hrest⟩
    refine ⟨fun hc => ?_, by rw [← hpre, ← hrest, List.takeWhile_append_dropWhile]⟩
    have := List.all_eq_true.1 (hpre ▸ List.all_takeWhile) c hc
    simp at this
  · rintro ⟨hc, rfl⟩
    have hall : ∀ a ∈ pre, decide (a ≠ c) = true := by
      intro a ha
      simp only [ne_eq, decide_eq_true_eq]
      rintro rfl
      exact hc ha
    rw [List.takeWhile_append_of_pos hall, List.dropWhile_append_of_pos hall]
    simp

/-- **The status after the last dash**: blanks, a text of one or more characters with no line
feed, and blanks; the status is that text trimmed, so it is empty when the text is all blank. -/
theorem statusText_append {w T w' : List Char} (hw : Blanks w) (hT : T ≠ []) (hn : '\n' ∉ T)
    (hw' : Blanks w') : statusText (w ++ T ++ w') = some (trim (String.ofList T)) := by
  unfold statusText
  cases hall : T.all isBlank with
  | true =>
    -- the whole rest is blank, and the text has a character other than a line feed
    have h1 : (w ++ T ++ w').all isBlank = true := by
      simp only [List.all_append, hall, Bool.and_true]
      exact Bool.and_eq_true_iff.2 ⟨hw, hw'⟩
    have h2 : (w ++ T ++ w').any (· ≠ '\n') = true := by
      obtain ⟨c, T', rfl⟩ := List.exists_cons_of_ne_nil hT
      have hc : c ≠ '\n' := fun h => hn (h ▸ List.mem_cons_self)
      simp [List.any_append, hc]
    rw [if_pos h1, if_pos h2, (trim_ofList_eq_empty_iff T).2 hall]
  | false =>
    have h1 : (w ++ T ++ w').all isBlank = false := by
      simp only [List.all_append, hall, Bool.false_and, Bool.and_false]
    -- what is left between the blanks is the text trimmed
    have hbody : dropBlankEnd (dropBlank (w ++ T ++ w')) = dropBlankEnd (dropBlank T) := by
      rw [List.append_assoc, dropBlank_append_of_all hw, dropBlank_append_of_not_all hall,
        dropBlankEnd_append_of_all hw']
    have hnl : '\n' ∉ dropBlankEnd (dropBlank T) := fun h =>
      hn ((List.dropWhile_sublist _).subset (mem_of_mem_dropBlankEnd h))
    rw [if_neg (by rw [h1]; exact Bool.false_ne_true), hbody, if_neg (by simpa using hnl)]
    simp only [trim, String.toList_ofList]

theorem statusText_eq_some {cs : List Char} {st : String} (h : statusText cs = some st) :
    ∃ w T w', Blanks w ∧ T ≠ [] ∧ '\n' ∉ T ∧ Blanks w' ∧ cs = w ++ T ++ w' ∧
      st = trim (String.ofList T) := by
  unfold statusText at h
  split at h
  · rename_i hall
    split at h
    · rename_i hany
      cases h
      -- a blank character other than a line feed stands for the whole status
      obtain ⟨c, hc, hcn⟩ := List.any_eq_true.1 hany
      have hcn' : c ≠ '\n' := by simpa using hcn
      obtain ⟨u, v, rfl⟩ := List.append_of_mem hc
      have hb : ∀ x ∈ u ++ c :: v, isBlank x = true := List.all_eq_true.1 hall
      refine ⟨u, [c], v, ?_, List.cons_ne_nil _ _, fun h => hcn' (List.mem_singleton.1 h).symm, ?_,
        by simp, ?_⟩
      · exact List.all_eq_true.2 fun x hx => hb x (by simp [hx])
      · exact List.all_eq_true.2 fun x hx => hb x (by simp [hx])
      · exact ((trim_ofList_eq_empty_iff [c]).2 (by simpa using hb c (by simp))).symm
    · cases h
  · rename_i hall
    simp only at h
    split at h
    · cases h
    · rename_i hnl
      cases h
      obtain ⟨w', hw', heq⟩ := exists_blanks_dropBlankEnd (dropBlank cs)
      refine ⟨cs.takeWhile isBlank, dropBlankEnd (dropBlank cs), w', List.all_takeWhile, ?_, ?_,
        hw', ?_, ?_⟩
      · intro hnil
        apply hall
        rw [← dropBlank_eq_nil_iff, ← dropBlank_dropBlank]
        exact List.dropWhile_eq_nil_iff.2 (dropBlankEnd_eq_nil_iff.1 hnil)
      · simpa using hnl
      · rw [List.append_assoc, ← heq]
        exact List.takeWhile_append_dropWhile.symm
      · have h := trim_trim (String.ofList cs)
        simp only [trim, String.toList_ofList] at h ⊢
        exact h.symm

theorem span_ne_append {c : Char} {pre : List Char} (h : c ∉ pre) (r : List Char) :
    (pre ++ c :: r).span (· ≠ c) = (pre, c :: r) :=
  span_ne_eq_iff.2 ⟨h, rfl⟩

/-- What `expect c` finds after the run up to the first `c`: the run holds no `c` and the list is
the run, `c` and what `expect` returns. -/
theorem span_ne_of_expect {c : Char} {l rest : List Char}
    (h : expect c (l.span (· ≠ c)).2 = some rest) :
    c ∉ (l.span (· ≠ c)).1 ∧ l = (l.span (· ≠ c)).1 ++ c :: rest :=
  span_ne_eq_iff.1 (Prod.ext rfl (expect_eq_some_iff.1 h))

theorem expect_cons (c : Char) (r : List Char) : expect c (c :: r) = some r :=
  expect_eq_some_iff.2 rfl

theorem keyword_append (w : String) (r : List Char) : keyword w (w.toList ++ r) = some r :=
  keyword_eq_some_iff.2 rfl

/-! ## The shape of a line -/

/-- **The shape of a device line.** In order: blanks `w₀`, the name `N` (no opening parenthesis,
not all blank), `(`, the id `I` (no closing parenthesis), `)`, blanks `w₁`, `-`, blanks `w₂`,
`Rev`, blanks `w₃`, the revision `R`, blanks `w₄`, `Ser`, blanks `w₅`, `#:`, blanks `w₆`, the
serial number `S`, blanks `w₇`, `-`, blanks `w₈`, the status text `T` (one or more characters, no
line feed) and blanks `w₉`, where `w₃` to `w₇` hold at least one blank. Such a line reads as its
name and status trimmed, with its revision and serial number. -/
inductive Shape (line : List Char) (read : String × MxmDevice) : Prop
  | mk (w₀ N I w₁ w₂ w₃ R w₄ w₅ w₆ S w₇ w₈ T w₉ : List Char)
      (blanks : Blanks w₀ ∧ Blanks w₁ ∧ Blanks w₂ ∧ Blanks w₈ ∧ Blanks w₉)
      (gaps : Gap w₃ ∧ Gap w₄ ∧ Gap w₅ ∧ Gap w₆ ∧ Gap w₇)
      (name : '(' ∉ N ∧ ¬ Blanks N) (id : ')' ∉ I) (rev : Word R) (serial : Word S)
      (status : T ≠ [] ∧ '\n' ∉ T)
      (parts : line = w₀ ++ N ++ '(' :: I ++ ')' :: w₁ ++ '-' :: w₂ ++ "Rev".toList ++ w₃ ++ R ++
        w₄ ++ "Ser".toList ++ w₅ ++ "#:".toList ++ w₆ ++ S ++ w₇ ++ '-' :: w₈ ++ T ++ w₉)
      (reads : read = (trim (String.ofList N),
        ⟨String.ofList R, String.ofList S, trim (String.ofList T)⟩))

/-- **A line of the shape reads as its parts.** -/
theorem ofLine?_of_shape {l n : String} {d : MxmDevice} (h : Shape l.toList (n, d)) :
    MxmDevice.ofLine? l = some (n, d) := by
  obtain ⟨w₀, N, I, w₁, w₂, w₃, R, w₄, w₅, w₆, S, w₇, w₈, T, w₉, ⟨b₀, b₁, b₂, b₈, b₉⟩,
    ⟨g₃, g₄, g₅, g₆, g₇⟩, ⟨hN, hN'⟩, hI, hR, hS, ⟨hT, hTn⟩, hl, hr⟩ := h
  have hpre : '(' ∉ w₀ ++ N := by
    rw [List.mem_append, not_or]
    exact ⟨fun h => absurd (List.all_eq_true.1 b₀ _ h) (by decide), hN⟩
  -- the keywords stay opaque, so that each step below meets the text it reads
  generalize hkR : "Rev".toList = kR at hl
  generalize hkS : "Ser".toList = kS at hl
  generalize hkN : "#:".toList = kN at hl
  have kwR : ∀ r, keyword "Rev" (kR ++ r) = some r := fun r => hkR ▸ keyword_append "Rev" r
  have kwS : ∀ r, keyword "Ser" (kS ++ r) = some r := fun r => hkS ▸ keyword_append "Ser" r
  have kwN : ∀ r, keyword "#:" (kN ++ r) = some r := fun r => hkN ▸ keyword_append "#:" r
  have sR : ∀ r, Solid (kR ++ r) := fun r => hkR ▸ solid_cons (c := 'R') (by decide) _
  have sS : ∀ r, Solid (kS ++ r) := fun r => hkS ▸ solid_cons (c := 'S') (by decide) _
  have sN : ∀ r, Solid (kN ++ r) := fun r => hkN ▸ solid_cons (c := '#') (by decide) _
  have hl' : l.toList = (w₀ ++ N) ++ '(' :: (I ++ ')' :: (w₁ ++ '-' :: (w₂ ++ (kR ++
      (w₃ ++ (R ++ (w₄ ++ (kS ++ (w₅ ++ (kN ++ (w₆ ++ (S ++ (w₇ ++
      '-' :: (w₈ ++ T ++ w₉)))))))))))))) := by
    rw [hl]
    simp only [List.append_assoc, List.cons_append]
  have hname : trim (String.ofList (w₀ ++ N)) ≠ "" := by
    rw [trim_blanks_append b₀, Ne, trim_ofList_eq_empty_iff]
    exact hN'
  simp only [MxmDevice.ofLine?, hl', span_ne_append hpre, span_ne_append hI, expect_cons,
    dropBlank_append_of_solid b₁ (solid_cons (c := '-') (by decide) _),
    dropBlank_append_of_solid b₂ (sR _), kwR, blanks_append g₃ (hR.solid_append _),
    word_append hR (g₄.loose_append _), blanks_append g₄ (sS _), kwS, blanks_append g₅ (sN _), kwN,
    blanks_append g₆ (hS.solid_append _), word_append hS (g₇.loose_append _),
    blanks_append g₇ (solid_cons (c := '-') (by decide) _), statusText_append b₈ hT hTn b₉,
    Option.bind_eq_bind, Option.bind_some, String.isEmpty_iff, hname, if_false]
  rw [trim_blanks_append b₀, hr]

/-- **A line the reader accepts has the shape**, with no blanks before the name. -/
theorem shape_of_ofLine? {l n : String} {d : MxmDevice} (h : MxmDevice.ofLine? l = some (n, d)) :
    Shape l.toList (n, d) := by
  simp only [MxmDevice.ofLine?, Option.bind_eq_bind, Option.bind_eq_some_iff] at h
  obtain ⟨a₁, h₁, a₂, h₂, a₃, h₃, a₄, h₄, a₅, h₅, ⟨rev, a₆⟩, h₆, a₇, h₇, a₈, h₈, a₉, h₉, a₁₀, h₁₀,
    a₁₁, h₁₁, ⟨serial, a₁₂⟩, h₁₂, a₁₃, h₁₃, a₁₄, h₁₄, st, h₁₅, h₁₆⟩ := h
  -- the name runs to the first opening parenthesis, the id to the next closing one
  obtain ⟨hN, hl⟩ := span_ne_of_expect h₁
  obtain ⟨hI, ha₁⟩ := span_ne_of_expect h₂
  generalize (l.toList.span (· ≠ '(')).1 = N at hN hl h₁₆
  generalize (a₁.span (· ≠ ')')).1 = I at hI ha₁
  obtain ⟨w₁, b₁, ha₂⟩ := (dropBlank_eq_iff (solid_cons (c := '-') (by decide) _)).1
    (expect_eq_some_iff.1 h₃)
  have hkR := keyword_eq_some_iff.1 h₄
  obtain ⟨w₂, b₂, ha₃⟩ := (dropBlank_eq_iff (r := "Rev".toList ++ a₄)
    (solid_cons (c := 'R') (by decide) _)).1 hkR
  obtain ⟨w₃, g₃, ha₄⟩ := blanks_eq_some h₅
  obtain ⟨R, hR, ha₅, rfl⟩ := word_eq_some h₆
  obtain ⟨w₄, g₄, ha₆⟩ : ∃ w, Gap w ∧ a₆ = w ++ a₇ := blanks_eq_some h₇
  have ha₇ := keyword_eq_some_iff.1 h₈
  obtain ⟨w₅, g₅, ha₈⟩ := blanks_eq_some h₉
  have ha₉ := keyword_eq_some_iff.1 h₁₀
  obtain ⟨w₆, g₆, ha₁₀⟩ := blanks_eq_some h₁₁
  obtain ⟨S, hS, ha₁₁, rfl⟩ := word_eq_some h₁₂
  obtain ⟨w₇, g₇, ha₁₂⟩ : ∃ w, Gap w ∧ a₁₂ = w ++ a₁₃ := blanks_eq_some h₁₃
  have ha₁₃ := expect_eq_some_iff.1 h₁₄
  obtain ⟨w₈, T, w₉, b₈, hT, hTn, b₉, ha₁₄, rfl⟩ := statusText_eq_some h₁₅
  split at h₁₆
  · cases h₁₆
  · rename_i hname
    simp only [Option.some.injEq, Prod.mk.injEq] at h₁₆
    obtain ⟨rfl, rfl⟩ := h₁₆
    refine ⟨[], N, I, w₁, w₂, w₃, R, w₄, w₅, w₆, S, w₇, w₈, T, w₉, ⟨rfl, b₁, b₂, b₈, b₉⟩,
      ⟨g₃, g₄, g₅, g₆, g₇⟩, ⟨hN, ?_⟩, hI, hR, hS, ⟨hT, hTn⟩, ?_, ?_⟩
    · rw [Blanks, ← trim_ofList_eq_empty_iff]
      exact fun h => hname (String.isEmpty_iff.2 h)
    · rw [hl, ha₁, ha₂, ha₃, ha₄, ha₅, ha₆, ha₇, ha₈, ha₉, ha₁₀, ha₁₁, ha₁₂, ha₁₃, ha₁₄]
      simp only [List.nil_append, List.append_assoc, List.cons_append]
    · rfl

/-- **A parsed device has a name, a revision and a serial number**; its status may be empty. -/
theorem ofLine?_nonempty {l n : String} {d : MxmDevice} (h : MxmDevice.ofLine? l = some (n, d)) :
    n ≠ "" ∧ d.rev ≠ "" ∧ d.serial ≠ "" := by
  obtain ⟨-, N, -, -, -, -, R, -, -, -, S, -, -, T, -, -, -, ⟨-, hN⟩, -, hR, hS, -, -, hr⟩ :=
    shape_of_ofLine? h
  simp only [Prod.mk.injEq] at hr
  obtain ⟨rfl, rfl⟩ := hr
  refine ⟨?_, ?_, ?_⟩
  · rw [Ne, trim_ofList_eq_empty_iff]
    exact hN
  · simpa only [Ne, String.ofList_eq_empty_iff] using hR.1
  · simpa only [Ne, String.ofList_eq_empty_iff] using hS.1

/-- A device line written from its parts, with one blank around each dash and keyword. -/
def render (N I R S T : String) : String :=
  N ++ "(" ++ I ++ ") - Rev " ++ R ++ " Ser #: " ++ S ++ " - " ++ T

/-- **A line written from parts of the shape reads back as them.** -/
theorem ofLine?_render {N I R S T : String} (hN : '(' ∉ N.toList) (hN' : trim N ≠ "")
    (hI : ')' ∉ I.toList) (hR : Word R.toList) (hS : Word S.toList) (hT : T ≠ "")
    (hTn : '\n' ∉ T.toList) :
    MxmDevice.ofLine? (render N I R S T) = some (trim N, ⟨R, S, trim T⟩) := by
  have hb : Blanks [' '] := by decide
  have hg : Gap [' '] := by decide
  apply ofLine?_of_shape
  refine ⟨[], N.toList, I.toList, [' '], [' '], [' '], R.toList, [' '], [' '], [' '], S.toList,
    [' '], [' '], T.toList, [], ⟨rfl, hb, hb, hb, rfl⟩, ⟨hg, hg, hg, hg, hg⟩, ⟨hN, ?_⟩, hI, hR, hS,
    ⟨?_, hTn⟩, ?_, ?_⟩
  · rwa [Blanks, ← trim_ofList_eq_empty_iff, String.ofList_toList]
  · simpa only [Ne, String.toList_eq_nil_iff] using hT
  · simp [render]
  · simp only [String.ofList_toList]

/-- **The device line reader accepts exactly the lines of the shape**, reading the name and the
status trimmed; so a parsed device has a name, a revision and a serial number, and a line written
from parts of the shape reads back as them. -/
theorem ofLine?_shape :
    (∀ (l n : String) (d : MxmDevice), MxmDevice.ofLine? l = some (n, d) ↔ Shape l.toList (n, d)) ∧
    (∀ (l n : String) (d : MxmDevice), MxmDevice.ofLine? l = some (n, d) →
      n ≠ "" ∧ d.rev ≠ "" ∧ d.serial ≠ "") ∧
    (∀ N I R S T : String, '(' ∉ N.toList → trim N ≠ "" → ')' ∉ I.toList → Word R.toList →
      Word S.toList → T ≠ "" → '\n' ∉ T.toList →
      MxmDevice.ofLine? (render N I R S T) = some (trim N, ⟨R, S, trim T⟩)) := by
  refine ⟨fun l n d => ⟨shape_of_ofLine?, ofLine?_of_shape⟩, fun l n d => ofLine?_nonempty, ?_⟩
  intro N I R S T hN hN' hI hR hS hT hTn
  exact ofLine?_render hN hN' hI hR hS hT hTn

theorem ofLine?_shape_nero :
    MxmDevice.ofLine? (render "Nero 5" "abc" "1" "S123" "OK") =
      some (trim "Nero 5", ⟨"1", "S123", trim "OK"⟩) :=
  ofLine?_shape.2.2 "Nero 5" "abc" "1" "S123" "OK" (by decide) (by decide) (by decide) (by decide)
    (by decide) (by decide) (by decide)

/-- **A blank status reads as the empty status**: a line that ends in a dash and a blank is a
device line. -/
theorem blank_status_reads :
    MxmDevice.ofLine? "Nero 5(x) - Rev 1 Ser #: S1 - " = some ("Nero 5", ⟨"1", "S1", ""⟩) := by
  rfl

end DeviceLine

end ReefLink
