import ReefLink.Xml.Reader
/-!
# Reading written text back

The XML reader goes through a document character by character: runs of characters
(`consumeWhile`), names (`qnameChars`), references, and the values of texts and
attributes (`textValue`, `attrValue`). Each loop is read here over a run of characters followed
by one it stops at; it gives the run, and the cursor advanced over it (`consumeWhile_run`,
`qnameChars_run`).

A writer escapes (`escape`) the markup characters `&`, `<` and `>`, the quote `"` that delimits
attribute values, and the blanks tab, line feed and carriage return, which reading would
normalize, as references. `textValue_escape` and `attrValue_escape` say that a written text and
a written attribute value read back as they were.
-/

namespace ReefLink.Xml

/-! ## The cursor -/

@[simp] theorem Cursor.step_rest (c : Cursor) (ch : Char) (tl : List Char) :
    (c.step ch tl).rest = tl := rfl

theorem Cursor.advance_rest (c : Cursor) (n : Nat) : (c.advance n).rest = c.rest.drop n := by
  induction n generalizing c with
  | zero => rfl
  | succ n ih =>
    unfold Cursor.advance
    split
    · rename_i ch tl h
      rw [ih, Cursor.step, h]
      rfl
    · rename_i h
      simp [h]

theorem skipSpaces_rest (c : Cursor) : (skipSpaces c).rest = c.rest.dropWhile isSpace := by
  fun_induction skipSpaces c with
  | case1 c ch tl h hs ih => rw [ih, h, List.dropWhile_cons_of_pos hs]; rfl
  | case2 c ch tl h hs => rw [h, List.dropWhile_cons_of_neg hs]
  | case3 c h => rw [h]; rfl

/-- Blanks are skipped up to the first character that is none. -/
theorem skipSpaces_rest_of_cons {c : Cursor} {ch : Char} {tl : List Char} (h : c.rest = ch :: tl)
    (hs : isSpace ch = false) : (skipSpaces c).rest = ch :: tl := by
  rw [skipSpaces_rest, h, List.dropWhile_cons_of_neg (by simp [hs])]

/-- Advancing over a character steps over it. -/
theorem Cursor.advance_succ {c : Cursor} {ch : Char} {tl : List Char} (h : c.rest = ch :: tl)
    (n : Nat) : c.advance (n + 1) = (c.step ch tl).advance n := by
  rw [Cursor.advance, h]

/-! ## Runs of characters

Each loop that reads a run of characters is read over a run `xs` followed by a `rest` at which it
stops; it gives the run and the cursor advanced over it. -/

theorem consumeWhile_run {go : List Char → Bool} {p : Char → Bool}
    (hgo : ∀ ch tl, go (ch :: tl) = p ch) {rest : List Char}
    (hstop : ∀ ch tl, rest = ch :: tl → isXmlChar ch ∧ p ch = false) (xs : List Char)
    (hxs : ∀ ch ∈ xs, isXmlChar ch ∧ p ch) (c : Cursor) (acc : List Char)
    (hc : c.rest = xs ++ rest) :
    consumeWhile go c acc = .ok (acc.reverse ++ xs, c.advance xs.length) := by
  induction xs generalizing c acc with
  | nil =>
    rw [consumeWhile]
    split
    · simp [Cursor.advance]
    · rename_i ch tl h
      rw [h] at hc
      obtain ⟨hx, hp⟩ := hstop ch tl hc.symm
      simp [hx, hgo, hp, Cursor.advance]
  | cons x xs ih =>
    rw [consumeWhile]
    split
    · rename_i h
      rw [h] at hc
      simp at hc
    · rename_i ch tl h
      rw [hc, List.cons_append, List.cons.injEq] at h
      obtain ⟨rfl, rfl⟩ := h
      obtain ⟨hx, hp⟩ := hxs _ List.mem_cons_self
      rw [List.length_cons, Cursor.advance_succ hc]
      simp only [hx, hgo, hp, Bool.not_true, Bool.false_eq_true, if_false, if_true]
      rw [ih (fun ch hch => hxs ch (List.mem_cons_of_mem _ hch)) (c.step x (xs ++ rest)) (x :: acc) rfl]
      simp

/-- One step of a name, at a cursor that has just stepped: how `simp` evaluates a name given
character by character. -/
theorem nameTail_step (c : Cursor) (x ch : Char) (tl acc : List Char) :
    nameTail (c.step x (ch :: tl)) acc =
      if isNameChar ch then nameTail ((c.step x (ch :: tl)).step ch tl) (ch :: acc)
      else (acc.reverse, c.step x (ch :: tl)) := by
  rw [nameTail]
  rfl

theorem qnameChars_run (start : Cursor) {rest : List Char}
    (hstop : ∀ ch tl, rest = ch :: tl → ch ≠ ':' ∧ isNameChar ch = false) (xs : List Char)
    (hxs : ∀ ch ∈ xs, ch ≠ ':' ∧ isNameChar ch) (c : Cursor) (acc : List Char)
    (hc : c.rest = xs ++ rest) :
    qnameChars start c none acc = .ok (none, acc.reverse ++ xs, c.advance xs.length) := by
  induction xs generalizing c acc with
  | nil =>
    rw [qnameChars]
    split
    · rename_i ch tl h
      rw [h] at hc
      obtain ⟨hcolon, hname⟩ := hstop ch tl hc.symm
      simp [hcolon, hname, Cursor.advance]
    · simp [Cursor.advance]
  | cons x xs ih =>
    rw [qnameChars]
    split
    · rename_i ch tl h
      rw [hc, List.cons_append, List.cons.injEq] at h
      obtain ⟨rfl, rfl⟩ := h
      obtain ⟨hcolon, hname⟩ := hxs _ List.mem_cons_self
      rw [List.length_cons, Cursor.advance_succ hc]
      rw [if_neg hcolon, if_pos hname,
        ih (fun ch hch => hxs ch (List.mem_cons_of_mem _ hch)) (c.step x (xs ++ rest)) (x :: acc) rfl]
      simp
    · rename_i h
      rw [h] at hc
      simp at hc

/-- A name without a prefix: a name start character, then name characters, none of them a
colon. -/
def plainName (n : List Char) : Bool :=
  match n with
  | x :: _ => isNameStart x && n.all fun ch => ch != ':' && isNameChar ch
  | [] => false

theorem plainName_cons {n : List Char} (h : plainName n) :
    ∃ x xs, n = x :: xs ∧ isNameStart x ∧ ∀ ch ∈ n, ch ≠ ':' ∧ isNameChar ch := by
  match n, h with
  | x :: xs, h =>
    simp only [plainName, Bool.and_eq_true, List.all_eq_true, bne_iff_ne, ne_eq] at h
    exact ⟨x, xs, rfl, h.1, h.2⟩

theorem consumeQName_run {n rest : List Char} (hn : plainName n)
    (hstop : ∀ ch tl, rest = ch :: tl → ch ≠ ':' ∧ isNameChar ch = false) {c : Cursor}
    (hc : c.rest = n ++ rest) : consumeQName c = .ok ("", String.ofList n, c.advance n.length) := by
  obtain ⟨x, xs, rfl, hx, hxs⟩ := plainName_cons hn
  have h1 := qnameChars_run c hstop (x :: xs) hxs c [] hc
  simp only [List.reverse_nil, List.nil_append] at h1
  simp only [consumeQName, h1, bind, Except.bind, Option.getD_none, hx, Bool.not_true,
    Bool.false_eq_true, if_false, String.ofList_nil]
  rfl

theorem consumeByte_eq {c : Cursor} {b : Char} {tl : List Char} (h : c.rest = b :: tl) :
    consumeByte c b = .ok (c.step b tl) := by
  simp [consumeByte, h]

theorem consumeQuote_eq {c : Cursor} {tl : List Char} (h : c.rest = '"' :: tl) :
    consumeQuote c = .ok ('"', c.step '"' tl) := by
  simp [consumeQuote, h]

theorem consumeEq_run {c : Cursor} {ch : Char} {tl : List Char} (h : c.rest = '=' :: ch :: tl)
    (hs : isSpace ch = false) : ∃ c', consumeEq c = .ok c' ∧ c'.rest = ch :: tl := by
  have h1 := skipSpaces_rest_of_cons h (by decide)
  refine ⟨skipSpaces ((skipSpaces c).step '=' (ch :: tl)), ?_, skipSpaces_rest_of_cons rfl hs⟩
  simp only [consumeEq, consumeByte_eq h1, bind, Except.bind]
  rfl

/-! ## Escaped text -/

/-- The characters written as references: the markup characters, the quote that delimits
attribute values, and the three blanks that reading would normalize. -/
def escapes (ch : Char) : Bool :=
  ch = '&' || ch = '<' || ch = '>' || ch = '"' || ch = '\t' || ch = '\n' || ch = '\r'

/-- The written form of a character, in text and in attribute values alike. -/
def escapeChar (ch : Char) : List Char :=
  if ch = '&' then "&amp;".toList
  else if ch = '<' then "&lt;".toList
  else if ch = '>' then "&gt;".toList
  else if ch = '"' then "&quot;".toList
  else if ch = '\t' then "&#9;".toList
  else if ch = '\n' then "&#10;".toList
  else if ch = '\r' then "&#13;".toList
  else [ch]

/-- The written form of a text. -/
def escape (cs : List Char) : List Char := cs.flatMap escapeChar

@[simp] theorem escape_nil : escape [] = [] := rfl

@[simp] theorem escape_cons (ch : Char) (cs : List Char) :
    escape (ch :: cs) = escapeChar ch ++ escape cs := rfl

theorem escapeChar_of_not_escapes {ch : Char} (h : escapes ch = false) : escapeChar ch = [ch] := by
  simp only [escapes, Bool.or_eq_false_iff, decide_eq_false_iff_not] at h
  simp [escapeChar, h]

/-- The seven escaped characters, one by one. -/
theorem escapes_cases {ch : Char} (h : escapes ch) :
    ch = '&' ∨ ch = '<' ∨ ch = '>' ∨ ch = '"' ∨ ch = '\t' ∨ ch = '\n' ∨ ch = '\r' := by
  simpa [escapes, or_assoc] using h

theorem escapeChar_of_escapes {ch : Char} (h : escapes ch) : ∃ body, escapeChar ch = '&' :: body := by
  rcases escapes_cases h with rfl | rfl | rfl | rfl | rfl | rfl | rfl <;> exact ⟨_, rfl⟩

theorem escapeChar_ne_nil (ch : Char) : escapeChar ch ≠ [] := by
  cases h : escapes ch
  · simp [escapeChar_of_not_escapes h]
  · obtain ⟨body, hb⟩ := escapeChar_of_escapes h
    simp [hb]

theorem escape_ne_nil {cs : List Char} (h : cs ≠ []) : escape cs ≠ [] := by
  obtain ⟨x, xs, rfl⟩ := List.exists_cons_of_ne_nil h
  simp [escapeChar_ne_nil]

/-- **A written text holds no markup character**, no quote and no carriage return, and nothing
that may not occur in a document when the text does not. -/
theorem mem_escape {cs : List Char} (hcs : ∀ ch ∈ cs, isXmlChar ch) {ch : Char}
    (h : ch ∈ escape cs) : isXmlChar ch ∧ ch ≠ '<' ∧ ch ≠ '>' ∧ ch ≠ '"' ∧ ch ≠ '\r' := by
  obtain ⟨x, hx, hmem⟩ := List.mem_flatMap.1 h
  cases hes : escapes x
  · rw [escapeChar_of_not_escapes hes, List.mem_singleton] at hmem
    subst hmem
    simp only [escapes, Bool.or_eq_false_iff, decide_eq_false_iff_not] at hes
    exact ⟨hcs ch hx, hes.1.1.1.1.1.2, hes.1.1.1.1.2, hes.1.1.1.2, hes.2⟩
  · -- the references are written in letters, digits, `&`, `#` and `;`
    -- checked as a computation on each reference: a quantifier over characters would be decided
    -- by running through all of them
    have hall : (escapeChar x).all
        (fun y => isXmlChar y && y != '<' && y != '>' && y != '"' && y != '\r') = true := by
      rcases escapes_cases hes with rfl | rfl | rfl | rfl | rfl | rfl | rfl <;> decide
    have hy := List.all_eq_true.1 hall ch hmem
    simp only [Bool.and_eq_true, bne_iff_ne, ne_eq] at hy
    exact ⟨hy.1.1.1.1, hy.1.1.1.2, hy.1.1.2, hy.1.2, hy.2⟩

/-- A written text without `&` is the text itself: nothing in it was escaped. -/
theorem escape_eq_self {cs : List Char} (h : '&' ∉ escape cs) : escape cs = cs := by
  induction cs with
  | nil => rfl
  | cons x xs ih =>
    rw [escape_cons, List.mem_append, not_or] at h
    cases hes : escapes x
    · rw [escape_cons, escapeChar_of_not_escapes hes, ih h.2]
      rfl
    · obtain ⟨body, hbody⟩ := escapeChar_of_escapes hes
      rw [hbody] at h
      exact absurd List.mem_cons_self h.1

theorem readReference_escapeChar {ch : Char} (h : escapes ch) {c : Cursor} {rest : List Char}
    (hc : c.rest = escapeChar ch ++ rest) :
    ∃ c', readReference c = some (.char ch, c') ∧ c'.rest = rest := by
  rcases escapes_cases h with rfl | rfl | rfl | rfl | rfl | rfl | rfl <;>
    simp [escapeChar] at hc <;>
    simp [readReference, hc, consumeName, nameTail_step, Cursor.advance_rest, digitsValue,
      isXmlChar, isSpace, isNameChar, isNameStart]

theorem resolveReference_escapeChar {ch : Char} (h : escapes ch) {c : Cursor} {rest : List Char}
    (hc : c.rest = escapeChar ch ++ rest) :
    ∃ c', resolveReference c = .ok (ch, c') ∧ c'.rest = rest := by
  obtain ⟨c', h1, h2⟩ := readReference_escapeChar h hc
  exact ⟨c', by simp [resolveReference, h1], h2⟩

/-- A written reference starts with an ampersand, reads back as its character, and shortens what
is left: what the value readers need of it. -/
theorem reference_step {ch : Char} (h : escapes ch) {c : Cursor} {rest : List Char}
    (hc : c.rest = escapeChar ch ++ rest) :
    ∃ c' body, c.rest = '&' :: body ∧ resolveReference c = .ok (ch, c') ∧ c'.rest = rest ∧
      c'.rest.length < c.rest.length := by
  obtain ⟨c', hr, hrest⟩ := resolveReference_escapeChar h hc
  obtain ⟨body, hbody⟩ := escapeChar_of_escapes h
  refine ⟨c', body ++ rest, by rw [hc, hbody, List.cons_append], hr, hrest, ?_⟩
  rw [hrest, hc, hbody]
  simp only [List.cons_append, List.length_cons, List.length_append]
  omega

/-! ## Reading values back -/

theorem textValue_nil {c : Cursor} (h : c.rest = []) (buf : List Char) (asIs : Bool) :
    textValue c buf asIs = .ok buf.reverse := by
  rw [textValue]
  split
  · rfl
  · simp_all

theorem textValue_ref {c c' : Cursor} {tl : List Char} {r : Char} (h : c.rest = '&' :: tl)
    (hr : resolveReference c = .ok (r, c')) (hlt : c'.rest.length < c.rest.length)
    (buf : List Char) (asIs : Bool) : textValue c buf asIs = textValue c' (r :: buf) true := by
  rw [textValue]
  split
  · simp_all
  · rename_i ch tl' h'
    rw [h, List.cons.injEq] at h'
    obtain ⟨rfl, rfl⟩ := h'
    simp only [if_true]
    split
    · simp_all
    · rename_i r' c'' hr'
      rw [hr, Except.ok.injEq, Prod.mk.injEq] at hr'
      obtain ⟨rfl, rfl⟩ := hr'
      rw [if_pos hlt]

theorem textValue_char {c : Cursor} {ch : Char} {tl : List Char} (h : c.rest = ch :: tl)
    (hch : ch ≠ '&') (buf : List Char) (asIs : Bool) :
    textValue c buf asIs =
      textValue (c.step ch tl) (if asIs then ch :: buf else pushText buf ch tl.isEmpty) false := by
  rw [textValue]
  split
  · simp_all
  · rename_i ch' tl' h'
    rw [h, List.cons.injEq] at h'
    obtain ⟨rfl, rfl⟩ := h'
    cases asIs <;> simp [hch]

/-- A character after one that is no carriage return is taken as it is. -/
theorem pushText_of_ne {buf : List Char} {ch : Char} (hb : buf.head? ≠ some '\r') (hch : ch ≠ '\r')
    (atEnd : Bool) : pushText buf ch atEnd = ch :: buf := by
  unfold pushText
  split
  · simp at hb
  · simp [hch]

/-- **Written text reads back.** The references give back the characters they stand for, and no
line end is touched, since every carriage return is written as a reference. A character that
does not come from a reference is pushed after one that is no carriage return. -/
theorem textValue_escape (cs : List Char) (c : Cursor) (buf : List Char) (asIs : Bool)
    (hc : c.rest = escape cs) (hbuf : asIs = false → buf.head? ≠ some '\r') :
    textValue c buf asIs = .ok (buf.reverse ++ cs) := by
  induction cs generalizing c buf asIs with
  | nil => simpa using textValue_nil hc buf asIs
  | cons x xs ih =>
    rw [escape_cons] at hc
    cases hes : escapes x
    · rw [escapeChar_of_not_escapes hes, List.singleton_append] at hc
      have hx : x ≠ '&' ∧ x ≠ '\r' := by simp_all [escapes]
      rw [textValue_char hc hx.1]
      have hpush : (if asIs then x :: buf else pushText buf x (escape xs).isEmpty) = x :: buf := by
        cases asIs
        · exact pushText_of_ne (hbuf rfl) hx.2 _
        · rfl
      rw [hpush, ih _ _ _ rfl (fun _ => by simpa using hx.2)]
      simp
    · obtain ⟨c', body, hamp, hr, hrest, hlt⟩ := reference_step hes hc
      rw [textValue_ref hamp hr hlt, ih c' (x :: buf) true hrest (by simp)]
      simp

theorem attrValue_nil {c : Cursor} (h : c.rest = []) (buf : List Char) :
    attrValue c buf = .ok buf.reverse := by
  rw [attrValue]
  split
  · rfl
  · simp_all

theorem attrValue_ref {c c' : Cursor} {tl : List Char} {r : Char} (h : c.rest = '&' :: tl)
    (hr : resolveReference c = .ok (r, c')) (hlt : c'.rest.length < c.rest.length)
    (buf : List Char) : attrValue c buf = attrValue c' (r :: buf) := by
  rw [attrValue]
  split
  · simp_all
  · rename_i ch tl' h'
    rw [h, List.cons.injEq] at h'
    obtain ⟨rfl, rfl⟩ := h'
    simp [hr, hlt]

theorem attrValue_char {c : Cursor} {ch : Char} {tl : List Char} (h : c.rest = ch :: tl)
    (hch : ch ≠ '&') (hblank : ch ≠ '\t' ∧ ch ≠ '\n' ∧ ch ≠ '\r') (buf : List Char) :
    attrValue c buf = attrValue (c.step ch tl) (ch :: buf) := by
  rw [attrValue]
  split
  · simp_all
  · rename_i ch' tl' h'
    rw [h, List.cons.injEq] at h'
    obtain ⟨rfl, rfl⟩ := h'
    simp [hch, hblank]

/-- **A written attribute value reads back**: references give back their characters, and no
blank is normalized, since tab, line feed and carriage return are written as references. -/
theorem attrValue_escape (cs : List Char) (c : Cursor) (buf : List Char)
    (hc : c.rest = escape cs) : attrValue c buf = .ok (buf.reverse ++ cs) := by
  induction cs generalizing c buf with
  | nil => simpa using attrValue_nil hc buf
  | cons x xs ih =>
    rw [escape_cons] at hc
    cases hes : escapes x
    · rw [escapeChar_of_not_escapes hes, List.singleton_append] at hc
      have hx : x ≠ '&' ∧ x ≠ '\t' ∧ x ≠ '\n' ∧ x ≠ '\r' := by simp_all [escapes]
      rw [attrValue_char hc hx.1 hx.2, ih _ _ rfl]
      simp
    · obtain ⟨c', body, hamp, hr, hrest, hlt⟩ := reference_step hes hc
      rw [attrValue_ref hamp hr hlt, ih _ _ hrest]
      simp

end ReefLink.Xml
