import ReefLink.Proofs.XmlText
/-!
# Writing an XML tree and reading it back

`Node.render` writes an element as its start tag, its content and its end tag, attribute values
in double quotes and texts escaped. A tree is printable (`Node.Printable`) when its names have no
prefix, its attributes are no namespace declarations and are named once, its texts are not empty
and hold only characters a document may hold, and no two texts stand side by side.

`read_render` says that the reader reads every printable element back from its written form. The
proof follows the reader: the start tag (`readAttrs_run`, `finishTag_plain`), then the content
one child at a time, by a mutual induction on the tree and its children (`readElement_render`,
`readContent_render`), within the nesting budget the reader is given, which a document's length
always covers (`budget_le_length`).
-/

namespace ReefLink.Xml

/-! ## Writing a tree -/

/-- Whether a node is a text. -/
def Node.isText : Node → Bool
  | .text _ => true
  | _ => false

/-- Attributes as written in a start tag: each after a blank, its value in double quotes. -/
def renderAttrs : List (String × String) → List Char
  | [] => []
  | (n, v) :: rest => ' ' :: (n.toList ++ '=' :: '"' :: (escape v.toList ++ '"' :: renderAttrs rest))

mutual

/-- **The written form of a node**: an element as start tag, content and end tag, a text
escaped. A node without content is not written. -/
def Node.render : Node → List Char
  | .element name attrs kids =>
    '<' :: (name.toList ++ renderAttrs attrs ++
      '>' :: (renderKids kids ++ '<' :: '/' :: (name.toList ++ ['>'])))
  | .text s => escape s.toList
  | .other => []

/-- The written form of the children of an element. -/
def renderKids : List Node → List Char
  | [] => []
  | k :: ks => k.render ++ renderKids ks

end

/-- An attribute that can be written: a plain name other than `xmlns`, and a value made of
characters that may occur in a document. -/
def AttrPrintable (a : String × String) : Prop :=
  plainName a.1.toList ∧ a.1 ≠ "xmlns" ∧ ∀ ch ∈ a.2.toList, isXmlChar ch

/-- Attributes that can be written: each printable, and each name once. -/
def AttrsPrintable (attrs : List (String × String)) : Prop :=
  (attrs.map Prod.fst).Nodup ∧ ∀ a ∈ attrs, AttrPrintable a

mutual

/-- **A node that reads back as written**: an element with a plain name, printable attributes
and printable children, or a text that is not empty and is made of characters that may occur in
a document. -/
def Node.Printable : Node → Prop
  | .element name attrs kids => plainName name.toList ∧ AttrsPrintable attrs ∧ KidsPrintable kids
  | .text s => s.toList ≠ [] ∧ ∀ ch ∈ s.toList, isXmlChar ch
  | .other => False

/-- Printable children, no two texts in a row: reading joins adjacent texts. -/
def KidsPrintable : List Node → Prop
  | [] => True
  | k :: ks => k.Printable ∧ KidsPrintable ks ∧ (k.isText → ∀ k' ∈ ks.head?, k'.isText = false)

end

mutual

/-- The nesting budget reading an element takes: one for the element, and what its content
takes. -/
def Node.budget : Node → Nat
  | .element _ _ kids => kidsBudget kids + 1
  | _ => 0

/-- The budget reading content takes: one for each child and one for the end tag, and what the
deepest child takes. -/
def kidsBudget : List Node → Nat
  | [] => 1
  | k :: ks => max k.budget (kidsBudget ks) + 1

end

mutual

theorem render_ne_nil : (t : Node) → t.Printable → t.render ≠ []
  | .element _ _ _, _ => by simp [Node.render]
  | .text s, h => by
    obtain ⟨x, xs, hs⟩ := List.exists_cons_of_ne_nil h.1
    simp [Node.render, hs, escapeChar_ne_nil]
  | .other, h => h.elim

/-- The budget of a printable element is at most the length of its written form, so a document's
length is budget enough to read it. -/
theorem budget_le_length : (t : Node) → t.Printable → t.budget ≤ t.render.length
  | .element name attrs kids, h => by
    have hk := kidsBudget_le_length kids h.2.2
    simp only [Node.budget, Node.render, List.length_cons, List.length_append]
    omega
  | .text _, _ => Nat.zero_le _
  | .other, h => h.elim

theorem kidsBudget_le_length : (kids : List Node) → KidsPrintable kids →
    kidsBudget kids ≤ (renderKids kids).length + 1
  | [], _ => Nat.le_refl _
  | k :: ks, h => by
    have hk := budget_le_length k h.1
    have hks := kidsBudget_le_length ks h.2.1
    have hne := List.length_pos_iff.2 (render_ne_nil k h.1)
    simp only [kidsBudget, renderKids, List.length_append]
    omega

end

/-! ## Reading tags back -/

theorem isSpace_of_isNameStart {ch : Char} (h : isNameStart ch) : isSpace ch = false := by
  cases hs : isSpace ch
  · rfl
  · simp only [isSpace, Bool.or_eq_true, decide_eq_true_eq] at hs
    rcases hs with ((rfl | rfl) | rfl) | rfl <;> simp_all [isNameStart]

theorem readAttr_run {n v : String} (hn : plainName n.toList) (hv : ∀ ch ∈ v.toList, isXmlChar ch)
    {c : Cursor} {rest : List Char}
    (hc : c.rest = n.toList ++ '=' :: '"' :: (escape v.toList ++ '"' :: rest)) :
    ∃ c', readAttr c = .ok (⟨"", n, v, c.pos⟩, c') ∧ c'.rest = rest := by
  have h1 := consumeQName_run hn (fun ch tl h => by simp at h; simp [← h.1]; decide) hc
  have h1r : (c.advance n.toList.length).rest = '=' :: '"' :: (escape v.toList ++ '"' :: rest) := by
    simp [Cursor.advance_rest, hc]
  obtain ⟨c2, h2, h2r⟩ := consumeEq_run h1r (by decide)
  simp only [readAttr, h1, bind, Except.bind, h2, consumeQuote_eq h2r]
  rw [consumeWhile_run (p := fun ch => ch ≠ '"' && ch ≠ '<') ?hgo ?hstop (escape v.toList) ?hxs _ [] rfl]
  case hgo => intro ch tl; rfl
  case hstop => intro ch tl h; simp at h; simp [← h.1]; decide
  case hxs =>
    intro ch hch
    obtain ⟨hx, hlt, -, hq, -⟩ := mem_escape hv hch
    simp [hx, hlt, hq]
  have h4 : ((c2.step '"' (escape v.toList ++ '"' :: rest)).advance (escape v.toList).length).rest =
      '"' :: rest := by
    simp [Cursor.advance_rest]
  refine ⟨((c2.step '"' (escape v.toList ++ '"' :: rest)).advance (escape v.toList).length).step
    '"' rest, ?_, rfl⟩
  simp only [List.reverse_nil, List.nil_append, consumeByte_eq h4, String.ofList_toList]
  rw [attrValue_escape v.toList _ [] rfl]
  simp [pure, Except.pure]

theorem readAttrs_close {c : Cursor} {tl : List Char} (h : c.rest = '>' :: tl) (t : StartTag) :
    readAttrs c t = .ok (some true, t, (skipSpaces c).step '>' tl) := by
  have h1 : (skipSpaces c).rest = '>' :: tl := skipSpaces_rest_of_cons h (by decide)
  rw [readAttrs]
  split
  · simp_all
  · simp only [h1]

theorem readAttrs_attr {c c2 : Cursor} {tl : List Char} {a : RawAttr} {t t' : StartTag}
    (h : c.rest = ' ' :: tl) {x : Char} {tl' : List Char} (h1 : (skipSpaces c).rest = x :: tl')
    (hx : x ≠ '/' ∧ x ≠ '>') (ha : readAttr (skipSpaces c) = .ok (a, c2))
    (ht : takeAttr t a = .ok t') (hlt : c2.rest.length < c.rest.length) :
    readAttrs c t = readAttrs c2 t' := by
  rw [readAttrs]
  split
  · simp_all
  · rename_i ch0 tl0 h0
    rw [h, List.cons.injEq] at h0
    obtain ⟨rfl, rfl⟩ := h0
    simp only [h1]
    split
    · simp_all
    · simp_all
    · simp_all
    · rw [if_neg (by decide)]
      split
      · simp_all
      · rename_i a' c2' hr
        rw [ha, Except.ok.injEq, Prod.mk.injEq] at hr
        obtain ⟨rfl, rfl⟩ := hr
        simp [ht, hlt]

/-- An attribute without prefix, not named `xmlns`, is an attribute and no declaration. -/
theorem takeAttr_plain {t : StartTag} {a : RawAttr} (hpre : a.pre = "") (hn : a.localName ≠ "xmlns") :
    takeAttr t a = .ok { t with attrs := t.attrs ++ [a] } := by
  simp [takeAttr, hpre, hn]

/-- **Written attributes read back**, in order, each without prefix, up to the `>` of the tag. -/
theorem readAttrs_run (attrs : List (String × String)) (hattrs : ∀ a ∈ attrs, AttrPrintable a)
    (t : StartTag) (c : Cursor) (rest : List Char) (hc : c.rest = renderAttrs attrs ++ '>' :: rest) :
    ∃ c' raws, readAttrs c t = .ok (some true, { t with attrs := t.attrs ++ raws }, c') ∧
      c'.rest = rest ∧ (∀ a ∈ raws, a.pre = "") ∧ raws.map (fun a => (a.localName, a.value)) = attrs := by
  induction attrs generalizing t c with
  | nil =>
    refine ⟨(skipSpaces c).step '>' rest, [], ?_, rfl, by simp, rfl⟩
    rw [readAttrs_close hc]
    simp
  | cons a as ih =>
    obtain ⟨n, v⟩ := a
    obtain ⟨hn, hxmlns, hv⟩ : plainName n.toList ∧ n ≠ "xmlns" ∧ ∀ ch ∈ v.toList, isXmlChar ch :=
      hattrs (n, v) List.mem_cons_self
    obtain ⟨x, xs, hnx, hx, -⟩ := plainName_cons hn
    have h1 : (skipSpaces c).rest = n.toList ++ '=' :: '"' :: (escape v.toList ++ '"' ::
        (renderAttrs as ++ '>' :: rest)) := by
      have hsp : isSpace ' ' = true := rfl
      rw [skipSpaces_rest, hc]
      simp [renderAttrs, hnx, hsp, isSpace_of_isNameStart hx]
    obtain ⟨c2, ha, h2⟩ := readAttr_run hn hv h1
    have hlt : c2.rest.length < c.rest.length := by
      rw [h2, hc, renderAttrs]
      simp only [List.cons_append, List.append_assoc, List.length_cons, List.length_append]
      omega
    have hxs : x ≠ '/' ∧ x ≠ '>' := by
      constructor <;> rintro rfl <;> simp [isNameStart] at hx
    rw [hnx, List.cons_append] at h1
    obtain ⟨c', raws, hread, hrest, hpre, hmap⟩ :=
      ih (fun a ha => hattrs a (List.mem_cons_of_mem _ ha)) _ c2 h2
    refine ⟨c', ⟨"", n, v, (skipSpaces c).pos⟩ :: raws, ?_, hrest, ?_, by simp [hmap]⟩
    · rw [renderAttrs, List.cons_append] at hc
      rw [readAttrs_attr hc h1 hxs ha (takeAttr_plain rfl hxmlns) hlt, hread]
      simp
    · intro a ha
      rcases List.mem_cons.1 ha with rfl | ha
      · rfl
      · exact hpre a ha

/-- Attributes without prefix, of distinct names, resolve to their names and values. -/
theorem resolveAttrs_plain (scope : Scope) (raws : List RawAttr) (hpre : ∀ a ∈ raws, a.pre = "")
    (hnodup : (raws.map RawAttr.localName).Nodup) (seen : List (Option String × String))
    (hseen : ∀ a ∈ raws, (none, a.localName) ∉ seen) :
    resolveAttrs scope raws seen = .ok (raws.map fun a => (a.localName, a.value)) := by
  induction raws generalizing seen with
  | nil => rfl
  | cons a as ih =>
    rw [List.map_cons, List.nodup_cons] at hnodup
    have ha : a.pre = "" := hpre a List.mem_cons_self
    -- the names already seen now include this one, which no later attribute has
    have htail : ∀ b ∈ as, (none, b.localName) ∉ seen ++ [(none, a.localName)] := by
      intro b hb hmem
      rcases List.mem_append.1 hmem with h | h
      · exact hseen b (List.mem_cons_of_mem _ hb) h
      · simp only [List.mem_singleton, Prod.mk.injEq, true_and] at h
        exact hnodup.1 (h ▸ List.mem_map_of_mem hb)
    have hnot : seen.any (· = (none, a.localName)) = false := by
      rw [List.any_eq_false]
      intro x hx hp
      rw [decide_eq_true_eq] at hp
      exact hseen a List.mem_cons_self (hp ▸ hx)
    simp [resolveAttrs, ha, hnot, ih (fun b hb => hpre b (List.mem_cons_of_mem _ hb)) hnodup.2 _ htail,
      bind, Except.bind, pure, Except.pure]

theorem namespaceOf_empty (scope : Scope) (pos : TextPos) : ∃ ns, namespaceOf scope "" pos = .ok ns := by
  simp only [namespaceOf, String.isEmpty_iff, if_true]
  split
  · exact ⟨_, rfl⟩
  · exact ⟨_, rfl⟩

/-- **A start tag without namespaces** keeps the parent's scope, and its attributes are their
names and values. -/
theorem finishTag_plain {t : StartTag} (hdecls : t.decls = []) (hpre : t.pre = "")
    (hattrs : ∀ a ∈ t.attrs, a.pre = "") (hnodup : (t.attrs.map RawAttr.localName).Nodup)
    (parent : Scope) :
    finishTag t parent = .ok (parent, t.attrs.map fun a => (a.localName, a.value)) := by
  have hscope : scopeOf t parent = parent := by simp [scopeOf, hdecls]
  obtain ⟨ns, hns⟩ := namespaceOf_empty parent t.pos
  simp [finishTag, hscope, resolveAttrs_plain parent t.attrs hattrs hnodup [] (by simp), hpre, hns,
    bind, Except.bind, pure, Except.pure]

/-! ## Reading content back -/

/-- The end tag of the element being read closes its content. -/
theorem readContent_close {c : Cursor} {name : String} {rest : List Char}
    (hn : plainName name.toList) (hc : c.rest = '<' :: '/' :: (name.toList ++ '>' :: rest))
    (budget : Nat) (scope : Scope) (acc : List Node) :
    ∃ c', readContent (budget + 1) scope "" name c acc = .ok (acc, true, c') ∧ c'.rest = rest := by
  have h2 : (c.advance 2).rest = name.toList ++ '>' :: rest := by simp [Cursor.advance_rest, hc]
  have hq := consumeQName_run hn (fun ch tl h => by simp at h; simp [← h.1]; decide) h2
  have h3 : (skipSpaces ((c.advance 2).advance name.toList.length)).rest = '>' :: rest :=
    skipSpaces_rest_of_cons (by rw [Cursor.advance_rest, h2, List.drop_left]) (by decide)
  refine ⟨(skipSpaces ((c.advance 2).advance name.toList.length)).step '>' rest, ?_, rfl⟩
  simp only [readContent, hc, hq, consumeByte_eq h3, String.ofList_toList]
  simp

theorem readContent_element {c c' : Cursor} {x : Char} {tl : List Char} (hc : c.rest = '<' :: x :: tl)
    (hx : x ≠ '!' ∧ x ≠ '?' ∧ x ≠ '/') {budget : Nat} {scope : Scope} {n : Node}
    (he : readElement budget scope c = .ok (.closed n, c')) (pre name : String) (acc : List Node) :
    readContent (budget + 1) scope pre name c acc = readContent budget scope pre name c' (n :: acc) := by
  rw [readContent, hc]
  simp only
  split
  · simp_all
  · simp_all
  · simp_all
  · simp_all
  · simp [he]

/-- A written text, up to the next tag, is read back as the text. -/
theorem readContent_text {c : Cursor} {cs rest : List Char} (hcs : cs ≠ [])
    (hx : ∀ ch ∈ cs, isXmlChar ch) (hc : c.rest = escape cs ++ '<' :: rest) (budget : Nat)
    (scope : Scope) (pre name : String) (acc : List Node) :
    readContent (budget + 1) scope pre name c acc =
      readContent budget scope pre name (c.advance (escape cs).length) (addText acc (String.ofList cs)) := by
  have hmem := fun ch (h : ch ∈ escape cs) => mem_escape hx h
  obtain ⟨y, ys, hy⟩ := List.exists_cons_of_ne_nil (escape_ne_nil hcs)
  have hylt : y ≠ '<' := (hmem y (hy ▸ List.mem_cons_self)).2.1
  have hrun := @consumeWhile_run (fun r => r.head? ≠ some '<') (fun ch => ch ≠ '<')
    (by simp) ('<' :: rest) (fun ch tl h => by simp at h; simp [← h.1]; decide) (escape cs)
    (fun ch h => by simp [(hmem ch h).1, (hmem ch h).2.1]) c [] hc
  -- no `>` was written, so the text holds no `]]>`
  have hgt : (escape cs).contains '>' = false := by
    simpa using fun h => (hmem '>' h).2.2.1 rfl
  have hvalue : (if (escape cs).contains '&' || (escape cs).contains '\r' then
      textValue (runCursor c (escape cs)) [] false else .ok (escape cs)) = .ok cs := by
    split
    · rw [textValue_escape cs _ [] false rfl (by simp)]
      rfl
    · rename_i h
      simp only [Bool.or_eq_true, List.contains_iff_mem, not_or] at h
      rw [escape_eq_self h.1]
  have hc' : c.rest = y :: (ys ++ '<' :: rest) := by rw [hc, hy, List.cons_append]
  rw [readContent]
  split
  · simp_all
  · rename_i tl h
    rw [hc', List.cons.injEq] at h
    exact absurd h.1 hylt
  · simp only [hrun, List.reverse_nil, List.nil_append, hgt, Bool.false_and, Bool.false_eq_true,
      if_false, hvalue]
    done

/-- A text added after a child that is no text stands on its own. -/
theorem addText_of_not_text {acc : List Node} (h : ∀ a ∈ acc.head?, a.isText = false) (s : String) :
    addText acc s = .text s :: acc := by
  unfold addText
  split
  · simp [Node.isText] at h
  · rfl

/-- After a tag's name comes a blank or the `>` that ends it. -/
theorem renderAttrs_append_head (attrs : List (String × String)) (tl : List Char) :
    ∃ ch tl', renderAttrs attrs ++ '>' :: tl = ch :: tl' ∧ ch ≠ ':' ∧ isNameChar ch = false := by
  cases attrs with
  | nil => exact ⟨'>', tl, rfl, by decide, by decide⟩
  | cons a as =>
    obtain ⟨n, v⟩ := a
    exact ⟨' ', _, rfl, by decide, by decide⟩

/-- An element is written starting with `<` and its name. -/
theorem render_element_head {t : Node} (ht : t.Printable) (htext : t.isText = false) :
    ∃ x tl, t.render = '<' :: x :: tl ∧ isNameStart x := by
  match t, ht, htext with
  | .element name _ _, ht, _ =>
    obtain ⟨x, xs, hnx, hx, -⟩ := plainName_cons ht.1
    exact ⟨x, _, by rw [Node.render, hnx]; rfl, hx⟩

/-- What follows a text in printable content is a tag: an element, or the end tag. -/
theorem renderKids_append_head {ks : List Node} (hks : KidsPrintable ks)
    (hhead : ∀ k ∈ ks.head?, k.isText = false) (tl : List Char) :
    ∃ tl', renderKids ks ++ '<' :: tl = '<' :: tl' := by
  match ks, hks with
  | [], _ => exact ⟨tl, rfl⟩
  | k :: ks, hks =>
    obtain ⟨x, xs, hk, -⟩ := render_element_head hks.1 (hhead k rfl)
    exact ⟨_, by rw [renderKids, hk]; rfl⟩

mutual

/-- **A written element reads back**, given budget enough, followed by anything. -/
theorem readElement_render (t : Node) (ht : t.Printable) (htext : t.isText = false) (budget : Nat)
    (hb : t.budget ≤ budget) (parent : Scope) (c : Cursor) (rest : List Char)
    (hc : c.rest = t.render ++ rest) :
    ∃ c', readElement budget parent c = .ok (.closed t, c') ∧ c'.rest = rest := by
  match t, ht, htext, budget, hb with
  | .element name attrs kids, ht, _, budget + 1, hb =>
    obtain ⟨hn, ⟨hnodup, hattrs⟩, hkids⟩ := ht
    simp only [Node.budget, Nat.add_le_add_iff_right] at hb
    have h1 : (c.advance 1).rest = name.toList ++ (renderAttrs attrs ++
        '>' :: (renderKids kids ++ '<' :: '/' :: (name.toList ++ '>' :: rest))) := by
      simp [Cursor.advance_rest, hc, Node.render]
    obtain ⟨ch, tl', hsep, hch⟩ := renderAttrs_append_head attrs
      (renderKids kids ++ '<' :: '/' :: (name.toList ++ '>' :: rest))
    have hq := consumeQName_run hn (fun ch' tl h => by rw [hsep] at h; simp only [List.cons.injEq] at h; exact h.1 ▸ hch) h1
    obtain ⟨c2, raws, hra, hr2, hpre, hmap⟩ := readAttrs_run attrs hattrs
      { pre := "", localName := String.ofList name.toList, pos := (c.advance 1).pos }
      ((c.advance 1).advance name.toList.length) _ (by rw [Cursor.advance_rest, h1, List.drop_left])
    have hnames : raws.map RawAttr.localName = attrs.map Prod.fst := by
      rw [← hmap, List.map_map]
      rfl
    obtain ⟨c3, hrc, hr3⟩ := readContent_render kids hkids budget hb parent name hn c2 [] (by simp) rest hr2
    refine ⟨c3, ?_, hr3⟩
    simp only [String.ofList_toList] at hq hra
    simp only [readElement, hq, bind, Except.bind]
    rw [if_neg (by decide), hra]
    simp only
    rw [finishTag_plain rfl rfl (by simpa using hpre) (by simpa [hnames] using hnodup)]
    simp only [Bool.not_true, Bool.false_eq_true, if_false, hrc]
    simp [hmap, pure, Except.pure]
  | .element _ _ _, _, _, 0, hb => simp [Node.budget] at hb
  | .text _, _, htext, _, _ => simp [Node.isText] at htext
  | .other, ht, _, _, _ => exact ht.elim

/-- **Written content reads back**, children in reverse after those read before, up to and with
the end tag. -/
theorem readContent_render (kids : List Node) (hkids : KidsPrintable kids) (budget : Nat)
    (hb : kidsBudget kids ≤ budget) (scope : Scope) (name : String) (hn : plainName name.toList)
    (c : Cursor) (acc : List Node) (hacc : ∀ k ∈ kids.head?, k.isText → ∀ a ∈ acc.head?, a.isText = false)
    (rest : List Char) (hc : c.rest = renderKids kids ++ '<' :: '/' :: (name.toList ++ '>' :: rest)) :
    ∃ c', readContent budget scope "" name c acc = .ok (kids.reverse ++ acc, true, c') ∧
      c'.rest = rest := by
  match kids, hkids, budget, hb with
  | [], _, budget + 1, _ =>
    simpa using readContent_close hn (by simpa [renderKids] using hc) budget scope acc
  | [], _, 0, hb => simp [kidsBudget] at hb
  | _ :: _, _, 0, hb => simp [kidsBudget] at hb
  | k :: ks, hkids, budget + 1, hb =>
    obtain ⟨hk, hks, hnext⟩ := hkids
    simp only [kidsBudget, Nat.add_le_add_iff_right, Nat.max_le] at hb
    have hc' : c.rest = k.render ++ (renderKids ks ++ '<' :: '/' :: (name.toList ++ '>' :: rest)) := by
      rw [hc, renderKids, List.append_assoc]
    cases hkt : k.isText
    · obtain ⟨x, tl, hr, hx⟩ := render_element_head hk hkt
      obtain ⟨c', he, hr'⟩ := readElement_render k hk hkt budget hb.1 scope c _ hc'
      obtain ⟨c'', hrc, hr''⟩ := readContent_render ks hks budget hb.2 scope name hn c' (k :: acc)
        (fun _ _ _ a ha => by simp only [List.head?_cons, Option.mem_def, Option.some.injEq] at ha; exact ha ▸ hkt)
        rest hr'
      have hxs : x ≠ '!' ∧ x ≠ '?' ∧ x ≠ '/' := by
        refine ⟨?_, ?_, ?_⟩ <;> rintro rfl <;> simp [isNameStart] at hx
      refine ⟨c'', ?_, hr''⟩
      rw [hr, List.cons_append, List.cons_append] at hc'
      rw [readContent_element hc' hxs he, hrc]
      simp
    · match k, hk with
      | .text s, hk =>
        obtain ⟨tl, htl⟩ := renderKids_append_head hks (hnext rfl) ('/' :: (name.toList ++ '>' :: rest))
        rw [Node.render, htl] at hc'
        have hrest : (c.advance (escape s.toList).length).rest =
            renderKids ks ++ '<' :: '/' :: (name.toList ++ '>' :: rest) := by
          rw [Cursor.advance_rest, hc', List.drop_left, htl]
        obtain ⟨c'', hrc, hr''⟩ := readContent_render ks hks budget hb.2 scope name hn _
          (.text s :: acc) (fun k' hk' hk't => absurd hk't (by simp [hnext rfl k' hk'])) rest hrest
        refine ⟨c'', ?_, hr''⟩
        rw [readContent_text hk.1 hk.2 hc', String.ofList_toList, addText_of_not_text (hacc _ rfl hkt), hrc]
        simp

end

/-! ## Reading a document back -/

theorem skipSpaces_of_not_space {c : Cursor} {ch : Char} {tl : List Char} (h : c.rest = ch :: tl)
    (hs : isSpace ch = false) : skipSpaces c = c := by
  rw [skipSpaces]
  split
  · rename_i ch' tl' h'
    rw [h, List.cons.injEq] at h'
    obtain ⟨rfl, rfl⟩ := h'
    simp [hs]
  · rfl

/-- Before a start tag there is nothing outside the root to read. -/
theorem readMisc_of_tag {c : Cursor} {x : Char} {tl : List Char} (h : c.rest = '<' :: x :: tl)
    (hx : x ≠ '!' ∧ x ≠ '?') : readMisc c = .ok c := by
  have hs := skipSpaces_of_not_space h (by decide)
  rw [readMisc]
  simp [hs, Cursor.atEnd, Cursor.startsWith, h, Ne.symm hx.1, Ne.symm hx.2]

theorem readMisc_of_nil {c : Cursor} (h : c.rest = []) : readMisc c = .ok c := by
  have hs : skipSpaces c = c := by
    rw [skipSpaces]
    split
    · simp_all
    · rfl
  rw [readMisc]
  simp [hs, Cursor.atEnd, h]

/-- **The reader reads back every printable element** written as a document. -/
theorem read_render (t : Node) (ht : t.Printable) (htext : t.isText = false) :
    read (String.ofList t.render) = .ok t := by
  obtain ⟨x, tl, hr, hx⟩ := render_element_head ht htext
  have hxs : x ≠ '!' ∧ x ≠ '?' := by
    constructor <;> rintro rfl <;> simp [isNameStart] at hx
  have hlen : t.budget ≤ (String.ofList t.render).length + 1 := by
    have := budget_le_length t ht
    rw [String.length_ofList]
    omega
  obtain ⟨c', he, hr'⟩ := readElement_render t ht htext _ hlen [] { rest := t.render } [] (by simp)
  simp only [read, String.toList_ofList]
  generalize (String.ofList t.render).length + 1 = n at he
  rw [hr] at he ⊢
  -- no byte order mark, declaration, comment or instruction stands before the root
  have hc0 : ({ rest := '<' :: x :: tl } : Cursor).rest = '<' :: x :: tl := rfl
  have hs := skipSpaces_of_not_space hc0 (by decide)
  simp [Cursor.startsWith, Ne.symm hxs.1, Ne.symm hxs.2, readMisc_of_tag hc0 hxs, hs, Cursor.curr,
    he, readMisc_of_nil hr', Cursor.atEnd, hr', bind, Except.bind, pure, Except.pure]

end ReefLink.Xml
