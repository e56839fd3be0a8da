import ReefLink.Json.Reader
import ReefLink.Json.Writer
import Mathlib.Data.String.Basic
/-!
# Writing JSON and reading it back

`read_render` says that the reader reads the writer's text of a value back as the value, for
every value without numbers whose object keys come in increasing order, as the reader keeps
them, and that opens no more arrays and objects at once than the reader allows (`Writable`).

Strings come back character by character (`readString_escapeChar`): the quote, the backslash and
five control characters by their named escapes, the other control characters by six-character
escapes, everything else as it is. Arrays and objects come back by an induction on the steps the
reader is given (`back`), which the length of a text always covers: each of `ValuesBack`,
`ItemsBack` and `FieldsBack` follows from the others with one step less, as `readValue`,
`readItems` and `readFields` call one another.
-/

namespace ReefLink.Json

/-! ## The reader's cursor -/

@[simp] theorem Cursor.step_rest (c : Cursor) (ch : Char) (tl : List Char) : (c.step ch tl).rest = tl :=
  rfl

/-- Blanks are skipped up to the first character that is none. -/
theorem Cursor.skipBlank_of_head {c : Cursor} {ch : Char} {tl : List Char} (h : c.rest = ch :: tl)
    (hch : ch ≠ ' ' ∧ ch ≠ '\t' ∧ ch ≠ '\n' ∧ ch ≠ '\r') : c.skipBlank = c := by
  rw [Cursor.skipBlank]
  split
  · rename_i ch' tl' h'
    rw [h] at h'
    obtain ⟨rfl, rfl⟩ := List.cons.inj h'
    simp [hch.1, hch.2.1, hch.2.2.1, hch.2.2.2]
  · rfl

theorem Cursor.skipBlank_of_nil {c : Cursor} (h : c.rest = []) : c.skipBlank = c := by
  rw [Cursor.skipBlank]
  split
  · rename_i h'
    rw [h] at h'
    exact absurd h' (List.cons_ne_nil _ _).symm
  · rfl

/-- Four characters ahead are at least four bytes. -/
theorem Cursor.four_le_bytesLeft {c : Cursor} {a b d e : Char} {tl : List Char}
    (h : c.rest = a :: b :: d :: e :: tl) : 4 ≤ c.bytesLeft := by
  have grow : ∀ (l : List Char) (k : Nat), k ≤ l.foldl (fun n ch => n + ch.utf8Size) k := by
    intro l
    induction l with
    | nil => intro k; exact Nat.le_refl k
    | cons x l ih => intro k; exact Nat.le_trans (Nat.le_add_right k _) (ih _)
  have ha := Char.utf8Size_pos a
  have hb := Char.utf8Size_pos b
  have hd := Char.utf8Size_pos d
  have he := Char.utf8Size_pos e
  have := grow tl (0 + a.utf8Size + b.utf8Size + d.utf8Size + e.utf8Size)
  simp only [Cursor.bytesLeft, h, List.foldl_cons]
  omega

/-! ## Strings -/

/-- The closing quote ends a string with what has been read. -/
theorem readString_close {c : Cursor} {tl : List Char} (h : c.rest = '"' :: tl) (acc : List Char) :
    readString c acc = .ok (String.ofList acc.reverse, c.step '"' tl) := by
  rw [readString]
  split
  · simp_all
  · rename_i ch tl' h'
    rw [h] at h'
    obtain ⟨rfl, rfl⟩ := List.cons.inj h'
    simp

/-- A character with no escape is read as it is. -/
theorem readString_plain {c : Cursor} {ch : Char} {tl : List Char} (h : c.rest = ch :: tl)
    (hq : ch ≠ '"') (hctl : 0x20 ≤ ch.toNat) (hb : ch ≠ '\\') (acc : List Char) :
    readString c acc = readString (c.step ch tl) (ch :: acc) := by
  rw [readString]
  split
  · simp_all
  · rename_i ch' tl' h'
    rw [h] at h'
    obtain ⟨rfl, rfl⟩ := List.cons.inj h'
    simp [hq, hb, Nat.not_lt.2 hctl]

/-- A backslash and a letter of the escapes the writer uses are read as the character escaped. -/
theorem readString_named {c : Cursor} {e x : Char} {tl : List Char} (h : c.rest = '\\' :: e :: tl)
    (he : (e, x) ∈ [('"', '"'), ('\\', '\\'), ('n', '\n'), ('t', '\t'), ('r', '\r'),
      ('b', Char.ofNat 8), ('f', Char.ofNat 12)]) (acc : List Char) :
    readString c acc = readString ((c.step '\\' (e :: tl)).step e tl) (x :: acc) := by
  rw [readString]
  split
  · simp_all
  · rename_i ch' tl' h'
    rw [h] at h'
    obtain ⟨rfl, rfl⟩ := List.cons.inj h'
    simp only [List.mem_cons, Prod.mk.injEq, List.not_mem_nil, or_false] at he
    rcases he with ⟨rfl, rfl⟩ | ⟨rfl, rfl⟩ | ⟨rfl, rfl⟩ | ⟨rfl, rfl⟩ | ⟨rfl, rfl⟩ | ⟨rfl, rfl⟩ |
      ⟨rfl, rfl⟩ <;> simp

/-- The two hexadecimal digits written for a control character read as its value. -/
theorem hexValue_hexByte : ∀ n, n < 0x20 → (hexByte n).map hexValue = [some (n / 16), some (n % 16)] := by
  decide

theorem readHex4_hexByte {c : Cursor} {n : Nat} {tl : List Char} (hn : n < 0x20)
    (h : c.rest = '0' :: '0' :: (hexByte n ++ tl)) : ∃ c', c'.rest = tl ∧ readHex4 c = .ok (n, c') := by
  obtain ⟨a, b, hab⟩ : ∃ a b, hexByte n = [a, b] := ⟨_, _, rfl⟩
  have hv := hexValue_hexByte n hn
  rw [hab, List.map_cons, List.map_cons, List.map_nil, List.cons.injEq, List.cons.injEq] at hv
  rw [hab] at h
  have hbytes := Cursor.four_le_bytesLeft h
  refine ⟨{ rest := tl, line := c.line, column := c.column + 4 }, rfl, ?_⟩
  rw [readHex4, if_neg (Nat.not_lt.2 hbytes)]
  simp only [h, List.cons_append, List.nil_append, hv.1, hv.2.1]
  have h0 : hexValue '0' = some 0 := by decide
  have hval : ((0 * 16 + 0) * 16 + n / 16) * 16 + n % 16 = n := by omega
  simp only [h0, hval]

/-- A six-character escape of a control character reads as the character. -/
theorem readUnicodeEscape_hexByte {c : Cursor} {ch : Char} {tl : List Char} (hlt : ch.toNat < 0x20)
    (h : c.rest = '0' :: '0' :: (hexByte ch.toNat ++ tl)) :
    ∃ c', c'.rest = tl ∧ readUnicodeEscape c = .ok (ch, c') := by
  obtain ⟨c', hc', hr⟩ := readHex4_hexByte hlt h
  refine ⟨c', hc', ?_⟩
  have hlo : ¬ 0xD800 ≤ ch.toNat := by omega
  have hhi : ¬ 0xDC00 ≤ ch.toNat := by omega
  simp [readUnicodeEscape, hr, bind, Except.bind, pure, Except.pure, hlo, hhi, Char.ofNat_toNat]

theorem readString_unicode {c : Cursor} {ch : Char} {tl : List Char} (hlt : ch.toNat < 0x20)
    (h : c.rest = '\\' :: 'u' :: '0' :: '0' :: (hexByte ch.toNat ++ tl)) (acc : List Char) :
    ∃ c', c'.rest = tl ∧ readString c acc = readString c' (ch :: acc) := by
  have hu : ((c.step '\\' ('u' :: '0' :: '0' :: (hexByte ch.toNat ++ tl))).step 'u'
      ('0' :: '0' :: (hexByte ch.toNat ++ tl))).rest = '0' :: '0' :: (hexByte ch.toNat ++ tl) := rfl
  obtain ⟨c', hc', he⟩ := readUnicodeEscape_hexByte hlt hu
  refine ⟨c', hc', ?_⟩
  have hshort : c'.rest.length < c.rest.length := by simp [hc', h]; omega
  rw [readString]
  split
  · simp_all
  · rename_i ch' tl' h'
    rw [h] at h'
    obtain ⟨rfl, rfl⟩ := List.cons.inj h'
    simp [he, hshort]

/-- **One written character reads back**, escaped or not. -/
theorem readString_escapeChar {c : Cursor} (ch : Char) {tl : List Char} (h : c.rest = escapeChar ch ++ tl)
    (acc : List Char) : ∃ c', c'.rest = tl ∧ readString c acc = readString c' (ch :: acc) := by
  -- one case per branch of the writer's escapes, in its order
  unfold escapeChar at h
  split at h
  · rename_i hq
    subst hq
    exact ⟨_, rfl, readString_named h (by simp) acc⟩
  split at h
  · rename_i hb
    subst hb
    exact ⟨_, rfl, readString_named h (by simp) acc⟩
  split at h
  · rename_i hn
    subst hn
    exact ⟨_, rfl, readString_named h (by simp) acc⟩
  split at h
  · rename_i ht
    subst ht
    exact ⟨_, rfl, readString_named h (by simp) acc⟩
  split at h
  · rename_i hr
    subst hr
    exact ⟨_, rfl, readString_named h (by simp) acc⟩
  split at h
  · rename_i h8
    obtain rfl : ch = Char.ofNat 8 := by rw [← h8, Char.ofNat_toNat]
    exact ⟨_, rfl, readString_named h (by simp) acc⟩
  split at h
  · rename_i h12
    obtain rfl : ch = Char.ofNat 12 := by rw [← h12, Char.ofNat_toNat]
    exact ⟨_, rfl, readString_named h (by simp) acc⟩
  split at h
  · rename_i hctl
    exact readString_unicode hctl (by simpa using h) acc
  rename_i hq hb _ _ _ _ _ hctl
  exact ⟨_, rfl, readString_plain (by simpa using h) hq (Nat.not_lt.1 hctl) hb acc⟩

/-- **A written string reads back**, through its closing quote. -/
theorem readString_quote (cs : List Char) {c : Cursor} {tl : List Char}
    (h : c.rest = cs.flatMap escapeChar ++ '"' :: tl) (acc : List Char) :
    ∃ c', c'.rest = tl ∧ readString c acc = .ok (String.ofList (acc.reverse ++ cs), c') := by
  induction cs generalizing c acc with
  | nil => exact ⟨_, rfl, by simpa using readString_close h acc⟩
  | cons ch cs ih =>
    rw [List.flatMap_cons, List.append_assoc] at h
    obtain ⟨c', hc', hstep⟩ := readString_escapeChar ch h acc
    obtain ⟨c'', hc'', hrest⟩ := ih hc' (ch :: acc)
    exact ⟨c'', hc'', by rw [hstep, hrest, List.reverse_cons, List.append_assoc, List.singleton_append]⟩

/-! ## Values -/

mutual

/-- **A value the reader reads back as written**: no numbers, object keys in strictly increasing
order, and no more than `room - 1` arrays and objects open at once. -/
def Writable : Nat → Json → Prop
  | _, .null | _, .bool _ | _, .str _ => True
  | _, .num _ => False
  | room, .arr xs => 1 < room ∧ ItemsWritable (room - 1) xs
  | room, .obj fs => 1 < room ∧ (fs.map Prod.fst).Pairwise (· < ·) ∧ FieldsWritable (room - 1) fs

/-- Array items the reader reads back. -/
def ItemsWritable : Nat → List Json → Prop
  | _, [] => True
  | room, x :: xs => Writable room x ∧ ItemsWritable room xs

/-- Object fields whose values the reader reads back. -/
def FieldsWritable : Nat → List (String × Json) → Prop
  | _, [] => True
  | room, (_, v) :: fs => Writable room v ∧ FieldsWritable room fs

end

theorem itemsWritable_iff {room : Nat} {xs : List Json} :
    ItemsWritable room xs ↔ ∀ x ∈ xs, Writable room x := by
  induction xs with
  | nil => simp [ItemsWritable]
  | cons x xs ih => simp [ItemsWritable, ih]

theorem fieldsWritable_iff {room : Nat} {fs : List (String × Json)} :
    FieldsWritable room fs ↔ ∀ f ∈ fs, Writable room f.2 := by
  induction fs with
  | nil => simp [FieldsWritable]
  | cons f fs ih => obtain ⟨k, v⟩ := f; simp [FieldsWritable, ih]

/-- What a written value starts with. -/
def valueHeads : List Char := ['n', 't', 'f', '"', '[', '\x7b']

/-- What the reader has left of an array after its opening bracket: the items, each after a
comma but the first, and the closing bracket. -/
def itemsText : Bool → List Json → List Char
  | _, [] => [']']
  | first, x :: xs => (if first then [] else [',']) ++ (render x).toList ++ itemsText false xs

/-- A field as written: its quoted key, a colon and its value. -/
def fieldText (k : String) (v : Json) : List Char := (quote k).toList ++ ':' :: (render v).toList

/-- What the reader has left of an object after its opening brace. -/
def fieldsText : Bool → List (String × Json) → List Char
  | _, [] => ['\x7d']
  | first, (k, v) :: fs => (if first then [] else [',']) ++ fieldText k v ++ fieldsText false fs

theorem renderItems_cons (x : Json) (xs : List Json) :
    (renderItems (x :: xs)).toList ++ [']'] = (render x).toList ++ itemsText false xs := by
  induction xs generalizing x with
  | nil => simp [renderItems, itemsText]
  | cons y ys ih =>
    rw [renderItems, String.toList_append, String.toList_append, List.append_assoc,
      List.append_assoc, ih]
    · simp [itemsText]
    · exact List.cons_ne_nil _ _

theorem render_arr (xs : List Json) : (render (.arr xs)).toList = '[' :: itemsText true xs := by
  cases xs with
  | nil => simp [render, renderItems, itemsText]
  | cons x xs =>
    have hclose : "]".toList = [']'] := rfl
    rw [render, String.toList_append, String.toList_append, List.append_assoc, hclose,
      renderItems_cons]
    simp [itemsText]

theorem renderFields_cons (k : String) (v : Json) (fs : List (String × Json)) :
    (renderFields ((k, v) :: fs)).toList ++ ['\x7d'] = fieldText k v ++ fieldsText false fs := by
  induction fs generalizing k v with
  | nil => simp [renderFields, fieldsText, fieldText]
  | cons f fs ih =>
    obtain ⟨k', v'⟩ := f
    rw [renderFields, String.toList_append, String.toList_append, String.toList_append,
      String.toList_append, List.append_assoc, List.append_assoc, List.append_assoc, List.append_assoc, ih]
    · simp [fieldsText, fieldText]
    · exact List.cons_ne_nil _ _

theorem render_obj (fs : List (String × Json)) : (render (.obj fs)).toList = '\x7b' :: fieldsText true fs := by
  cases fs with
  | nil => simp [render, renderFields, fieldsText]
  | cons f fs =>
    obtain ⟨k, v⟩ := f
    have hclose : "\x7d".toList = ['\x7d'] := rfl
    rw [render, String.toList_append, String.toList_append, List.append_assoc, hclose,
      renderFields_cons]
    simp [fieldsText]

theorem quote_toList (s : String) : (quote s).toList = '"' :: (s.toList.flatMap escapeChar ++ ['"']) := by
  simp [quote]

/-- A writable value is written from one of the characters that open a value. -/
theorem render_head {room : Nat} : (v : Json) → Writable room v →
    ∃ ch tl, (render v).toList = ch :: tl ∧ ch ∈ valueHeads
  | .null, _ => ⟨'n', "ull".toList, rfl, by decide⟩
  | .bool true, _ => ⟨'t', "rue".toList, rfl, by decide⟩
  | .bool false, _ => ⟨'f', "alse".toList, rfl, by decide⟩
  | .num _, hv => hv.elim
  | .str s, _ => ⟨'"', _, quote_toList s, by decide⟩
  | .arr xs, _ => ⟨'[', _, render_arr xs, by decide⟩
  | .obj fs, _ => ⟨'\x7b', _, render_obj fs, by decide⟩

/-- The reader passes over no blank at the start of a value, and takes it for no closing bracket,
closing brace or comma. -/
theorem valueHeads_cases {ch : Char} (h : ch ∈ valueHeads) :
    (ch = ' ' || ch = '\t' || ch = '\n' || ch = '\r') = false ∧ ch ≠ ']' ∧ ch ≠ '\x7d' ∧ ch ≠ ',' := by
  simp only [valueHeads, List.mem_cons, List.not_mem_nil, or_false] at h
  rcases h with rfl | rfl | rfl | rfl | rfl | rfl <;> decide

theorem skipBlank_of_valueHead {c : Cursor} {ch : Char} {tl : List Char} (h : c.rest = ch :: tl)
    (hch : ch ∈ valueHeads) : c.skipBlank = c := by
  have hb := (valueHeads_cases hch).1
  simp only [Bool.or_eq_false_iff, decide_eq_false_iff_not] at hb
  exact Cursor.skipBlank_of_head h ⟨hb.1.1.1, hb.1.1.2, hb.1.2, hb.2⟩

theorem itemsText_ne_nil (first : Bool) (xs : List Json) : itemsText first xs ≠ [] := by
  induction xs generalizing first with
  | nil => simp [itemsText]
  | cons x xs ih => simp [itemsText, ih]

theorem fieldsText_ne_nil (first : Bool) (fs : List (String × Json)) : fieldsText first fs ≠ [] := by
  cases fs with
  | nil => simp [fieldsText]
  | cons f fs => obtain ⟨k, v⟩ := f; simp [fieldsText, fieldText]

/-- A word is read letter by letter. -/
theorem expectWord_run (w : List Char) {c : Cursor} {tl : List Char} (h : c.rest = w ++ tl) :
    ∃ c', c'.rest = tl ∧ expectWord c w = .ok c' := by
  induction w generalizing c with
  | nil => exact ⟨c, h, rfl⟩
  | cons x w ih =>
    obtain ⟨c', hc', he⟩ := ih (c := c.step x (w ++ tl)) rfl
    refine ⟨c', hc', ?_⟩
    rw [expectWord, h]
    simpa using he

/-! ## Reading one value -/

section Steps

variable {m room : Nat} {c c' : Cursor} {tl : List Char}

/-- The three words and the values they are read as: first letter, the letters after it, value. -/
theorem readValue_word {ch : Char} {w : List Char} {v : Json}
    (hv : (ch, w, v) ∈ [('n', ['u', 'l', 'l'], Json.null), ('t', ['r', 'u', 'e'], .bool true),
      ('f', ['a', 'l', 's', 'e'], .bool false)])
    (h : c.rest = ch :: tl) (hw : expectWord (c.step ch tl) w = .ok c') :
    readValue (m + 1) room c = .ok (v, c') := by
  simp only [List.mem_cons, Prod.mk.injEq, List.not_mem_nil, or_false] at hv
  rcases hv with ⟨rfl, rfl, rfl⟩ | ⟨rfl, rfl, rfl⟩ | ⟨rfl, rfl, rfl⟩ <;>
    rw [readValue, Cursor.skipBlank_of_head h (by decide)] <;> simp [h, hw, Except.map]

theorem readValue_str {s : String} (h : c.rest = '"' :: tl)
    (hs : readString (c.step '"' tl) [] = .ok (s, c')) : readValue (m + 1) room c = .ok (.str s, c') := by
  rw [readValue, Cursor.skipBlank_of_head h (by decide)]
  simp [h, hs, Except.map]

theorem readValue_arr {xs : List Json} (h : c.rest = '[' :: tl) (hroom : 1 < room)
    (hi : readItems m (room - 1) (c.step '[' tl) true [] = .ok (xs, c')) :
    readValue (m + 1) room c = .ok (.arr xs, c') := by
  rw [readValue, Cursor.skipBlank_of_head h (by decide)]
  simp [h, hi, Except.map, Nat.not_le.2 hroom]

theorem readValue_obj {fs : List (String × Json)} (h : c.rest = '\x7b' :: tl) (hroom : 1 < room)
    (hi : readFields m (room - 1) (c.step '\x7b' tl) true [] = .ok (fs, c')) :
    readValue (m + 1) room c = .ok (.obj fs, c') := by
  rw [readValue, Cursor.skipBlank_of_head h (by decide)]
  simp [h, hi, Except.map, Nat.not_le.2 hroom]

theorem readItems_close (h : c.rest = ']' :: tl) (first : Bool) (acc : List Json) :
    readItems (m + 1) room c first acc = .ok (acc.reverse, c.step ']' tl) := by
  rw [readItems, Cursor.skipBlank_of_head h (by decide)]
  simp [h]

/-- An item is read, after a comma unless it is the first, and the items after it. -/
theorem readItems_item (first : Bool) {ch : Char} (h : c.rest = (if first then [] else [',']) ++ ch :: tl)
    (hch : ch ∈ valueHeads) (acc : List Json) :
    ∃ c1 : Cursor, c1.rest = ch :: tl ∧ ∀ x c2, readValue m room c1 = .ok (x, c2) →
      readItems (m + 1) room c first acc = readItems m room c2 false (x :: acc) := by
  obtain ⟨-, hclose, -, hcomma⟩ := valueHeads_cases hch
  cases first with
  | true =>
    refine ⟨c, h, fun x c2 hv => ?_⟩
    simp only [if_true, List.nil_append] at h
    rw [readItems, skipBlank_of_valueHead h hch]
    simp [h, hclose, hcomma, hv]
  | false =>
    refine ⟨c.step ',' (ch :: tl), rfl, fun x c2 hv => ?_⟩
    simp only [Bool.false_eq_true, if_false, List.singleton_append] at h
    have hskip : (c.step ',' (ch :: tl)).skipBlank = c.step ',' (ch :: tl) :=
      skipBlank_of_valueHead rfl hch
    rw [readItems, Cursor.skipBlank_of_head h (by decide)]
    simp [h, hclose, hv, hskip]

theorem readFields_close (h : c.rest = '\x7d' :: tl) (first : Bool) (acc : List (String × Json)) :
    readFields (m + 1) room c first acc = .ok (acc, c.step '\x7d' tl) := by
  rw [readFields, Cursor.skipBlank_of_head h (by decide)]
  simp [h]

/-- A field is read, after a comma unless it is the first: its key, the colon and its value. -/
theorem readFields_field (first : Bool) {k : String}
    (h : c.rest = (if first then [] else [',']) ++ ((quote k).toList ++ ':' :: tl))
    (acc : List (String × Json)) :
    ∃ c1 : Cursor, c1.rest = tl ∧ ∀ x c2, readValue m room c1 = .ok (x, c2) →
      readFields (m + 1) room c first acc = readFields m room c2 false (insertField k x acc) := by
  rw [quote_toList, List.cons_append, List.append_assoc, List.singleton_append] at h
  -- the key is read from the cursor past its opening quote
  have key : ∀ c0 : Cursor, c0.rest = '"' :: (k.toList.flatMap escapeChar ++ '"' :: ':' :: tl) →
      ∃ c', c'.rest = ':' :: tl ∧
        readString (c0.step '"' (k.toList.flatMap escapeChar ++ '"' :: ':' :: tl)) [] = .ok (k, c') := by
    intro c0 _
    obtain ⟨c', hc', hs⟩ := readString_quote k.toList (c := c0.step '"' _) rfl []
    exact ⟨c', hc', by simpa using hs⟩
  cases first with
  | true =>
    simp only [if_true, List.nil_append] at h
    obtain ⟨c', hc', hs⟩ := key c h
    refine ⟨c'.step ':' tl, rfl, fun x c2 hv => ?_⟩
    rw [readFields, Cursor.skipBlank_of_head h (by decide)]
    simp [h, hs, Cursor.skipBlank_of_head hc' (by decide), hc', hv]
  | false =>
    simp only [Bool.false_eq_true, if_false, List.singleton_append] at h
    obtain ⟨c', hc', hs⟩ := key (c.step ',' _) rfl
    refine ⟨c'.step ':' tl, rfl, fun x c2 hv => ?_⟩
    have hskip : (c.step ',' ('"' :: (k.toList.flatMap escapeChar ++ '"' :: ':' :: tl))).skipBlank =
        c.step ',' _ := Cursor.skipBlank_of_head rfl (by decide)
    rw [readFields, Cursor.skipBlank_of_head h (by decide)]
    simp [h, hs, hskip, Cursor.skipBlank_of_head hc' (by decide), hc', hv]

end Steps

/-- A field with a key past every key before it goes last. -/
theorem insertField_of_lt {k : String} (v : Json) (acc : List (String × Json))
    (h : ∀ k' ∈ acc.map Prod.fst, k' < k) : insertField k v acc = acc ++ [(k, v)] := by
  induction acc with
  | nil => rfl
  | cons e acc ih =>
    obtain ⟨k', v'⟩ := e
    have hlt : k' < k := h k' List.mem_cons_self
    rw [insertField, if_neg (lt_asymm hlt), if_neg (ne_of_gt hlt),
      ih fun k'' hk'' => h k'' (List.mem_cons_of_mem _ hk'')]
    rfl

/-! ## Reading back, by the work the reader is allowed -/

/-- The reader, given `n` steps, reads back every writable value written in at most `n`
characters. -/
def ValuesBack (n : Nat) : Prop :=
  ∀ room v, Writable room v → (render v).toList.length ≤ n → ∀ c rest,
    c.rest = (render v).toList ++ rest → ∃ c', c'.rest = rest ∧ readValue n room c = .ok (v, c')

/-- The reader, given `n` steps, reads back the rest of a written array of at most `n`
characters. -/
def ItemsBack (n : Nat) : Prop :=
  ∀ room xs, ItemsWritable room xs → ∀ first, (itemsText first xs).length ≤ n → ∀ acc c rest,
    c.rest = itemsText first xs ++ rest →
      ∃ c', c'.rest = rest ∧ readItems n room c first acc = .ok (acc.reverse ++ xs, c')

/-- The reader, given `n` steps, reads back the rest of a written object of at most `n`
characters, whose keys come in order after those read already. -/
def FieldsBack (n : Nat) : Prop :=
  ∀ room fs, FieldsWritable room fs → (fs.map Prod.fst).Pairwise (· < ·) → ∀ first,
    (fieldsText first fs).length ≤ n → ∀ acc, (∀ k ∈ acc.map Prod.fst, ∀ k' ∈ fs.map Prod.fst, k < k') →
      ∀ c rest, c.rest = fieldsText first fs ++ rest →
        ∃ c', c'.rest = rest ∧ readFields n room c first acc = .ok (acc ++ fs, c')

theorem back_zero : ValuesBack 0 ∧ ItemsBack 0 ∧ FieldsBack 0 := by
  refine ⟨fun room v hv hlen => ?_, fun room xs _ first hlen => ?_, fun room fs _ _ first hlen => ?_⟩
  · obtain ⟨ch, tl, hr, -⟩ := render_head v hv
    simp [hr] at hlen
  · exact absurd (List.length_eq_zero_iff.1 (Nat.le_zero.1 hlen)) (itemsText_ne_nil first xs)
  · exact absurd (List.length_eq_zero_iff.1 (Nat.le_zero.1 hlen)) (fieldsText_ne_nil first fs)

/-- A value is read by its first character: a word, a string, or the rest of an array or an
object with one step less. -/
theorem valuesBack_succ {m : Nat} (hi : ItemsBack m) (hf : FieldsBack m) : ValuesBack (m + 1) := by
  intro room v hv hlen c rest hc
  cases v with
  | null =>
    obtain ⟨c', hc', hw⟩ := expectWord_run ['u', 'l', 'l'] (c := c.step 'n' _) rfl
    exact ⟨c', hc', readValue_word (by simp) (by simpa [render] using hc) hw⟩
  | bool b =>
    cases b with
    | true =>
      obtain ⟨c', hc', hw⟩ := expectWord_run ['r', 'u', 'e'] (c := c.step 't' _) rfl
      exact ⟨c', hc', readValue_word (by simp) (by simpa [render] using hc) hw⟩
    | false =>
      obtain ⟨c', hc', hw⟩ := expectWord_run ['a', 'l', 's', 'e'] (c := c.step 'f' _) rfl
      exact ⟨c', hc', readValue_word (by simp) (by simpa [render] using hc) hw⟩
  | num => exact hv.elim
  | str s =>
    obtain ⟨c', hc', hs⟩ := readString_quote s.toList (c := c.step '"' _) rfl []
    rw [List.reverse_nil, List.nil_append, String.ofList_toList] at hs
    refine ⟨c', hc', readValue_str ?_ hs⟩
    rw [hc, render, quote_toList]
    simp
  | arr xs =>
    obtain ⟨hroom, hxs⟩ := hv
    rw [render_arr] at hc hlen
    obtain ⟨c', hc', hr⟩ := hi (room - 1) xs hxs true (by simpa using hlen) [] (c.step '[' _) rest rfl
    rw [List.reverse_nil, List.nil_append] at hr
    exact ⟨c', hc', readValue_arr hc hroom hr⟩
  | obj fs =>
    obtain ⟨hroom, hsorted, hfs⟩ := hv
    rw [render_obj] at hc hlen
    obtain ⟨c', hc', hr⟩ := hf (room - 1) fs hfs hsorted true (by simpa using hlen) []
      (by simp) (c.step '\x7b' _) rest rfl
    rw [List.nil_append] at hr
    exact ⟨c', hc', readValue_obj hc hroom hr⟩

/-- An array's rest is read item by item: each item with one step less, and the items after it
too. -/
theorem itemsBack_succ {m : Nat} (hv : ValuesBack m) (hi : ItemsBack m) : ItemsBack (m + 1) := by
  intro room xs hxs first hlen acc c rest hc
  match xs, hxs with
  | [], _ =>
    simp only [itemsText, List.singleton_append] at hc
    exact ⟨_, rfl, by rw [readItems_close hc, List.append_nil]⟩
  | x :: xs, ⟨hx, hxs⟩ =>
    obtain ⟨ch, tl, hr, hch⟩ := render_head x hx
    have hpos := itemsText_ne_nil false xs
    have hxlen : (render x).toList.length ≤ m := by
      simp only [itemsText, List.length_append] at hlen
      have := List.length_pos_iff.2 hpos
      omega
    have hxslen : (itemsText false xs).length ≤ m := by
      simp only [itemsText, List.length_append, hr, List.length_cons] at hlen
      omega
    simp only [itemsText, hr, List.append_assoc, List.cons_append] at hc
    obtain ⟨c1, hc1, hstep⟩ := @readItems_item m room c _ first _ hc hch acc
    obtain ⟨c2, hc2, hx2⟩ := hv room x hx hxlen c1 (itemsText false xs ++ rest)
      (by rw [hc1, hr, List.cons_append])
    obtain ⟨c3, hc3, hxs3⟩ := hi room xs hxs false hxslen (x :: acc) c2 rest hc2
    refine ⟨c3, hc3, ?_⟩
    rw [hstep x c2 hx2, hxs3, List.reverse_cons, List.append_assoc, List.singleton_append]

/-- An object's rest is read field by field: each key is past those before it, so the field
goes last, and its value is read with one step less. -/
theorem fieldsBack_succ {m : Nat} (hv : ValuesBack m) (hf : FieldsBack m) : FieldsBack (m + 1) := by
  intro room fs hfs hsorted first hlen acc hacc c rest hc
  match fs, hfs with
  | [], _ =>
    simp only [fieldsText, List.singleton_append] at hc
    exact ⟨_, rfl, by rw [readFields_close hc, List.append_nil]⟩
  | (k, v) :: fs, ⟨hvw, hfs⟩ =>
    obtain ⟨ch, tl, hr, -⟩ := render_head v hvw
    have hpos := List.length_pos_iff.2 (fieldsText_ne_nil false fs)
    have hvlen : (render v).toList.length ≤ m := by
      simp only [fieldsText, fieldText, List.length_append, List.length_cons] at hlen
      omega
    have hfslen : (fieldsText false fs).length ≤ m := by
      simp only [fieldsText, fieldText, List.length_append, List.length_cons, hr] at hlen
      omega
    simp only [fieldsText, fieldText, List.append_assoc, List.cons_append] at hc
    obtain ⟨c1, hc1, hstep⟩ := @readFields_field m room c _ first _ hc acc
    obtain ⟨c2, hc2, hv2⟩ := hv room v hvw hvlen c1 (fieldsText false fs ++ rest) hc1
    -- the key goes after every key read so far, and before every key still to come
    rw [List.map_cons, List.pairwise_cons] at hsorted
    have hins : insertField k v acc = acc ++ [(k, v)] :=
      insertField_of_lt v acc fun k' hk' => hacc k' hk' k List.mem_cons_self
    have hacc' : ∀ a ∈ (acc ++ [(k, v)]).map Prod.fst, ∀ b ∈ fs.map Prod.fst, a < b := by
      intro a ha b hb
      simp only [List.map_append, List.map_cons, List.map_nil, List.mem_append, List.mem_singleton] at ha
      rcases ha with ha | rfl
      · exact hacc a ha b (List.mem_cons_of_mem _ hb)
      · exact hsorted.1 b hb
    obtain ⟨c3, hc3, hfs3⟩ := hf room fs hfs hsorted.2 false hfslen (acc ++ [(k, v)]) hacc' c2 rest hc2
    refine ⟨c3, hc3, ?_⟩
    rw [hstep v c2 hv2, hins, hfs3, List.append_assoc, List.singleton_append]

/-- **The reader reads back every writable value**, with enough steps for its written length. -/
theorem back (n : Nat) : ValuesBack n ∧ ItemsBack n ∧ FieldsBack n := by
  induction n with
  | zero => exact back_zero
  | succ m ih =>
    obtain ⟨hv, hi, hf⟩ := ih
    exact ⟨valuesBack_succ hi hf, itemsBack_succ hv hi, fieldsBack_succ hv hf⟩

/-- **Writing and reading back**: the text the writer gives for a value without numbers, with
its object keys in increasing order and at most 127 arrays and objects open at once, reads as
the value. -/
theorem read_render (v : Json) (hv : Writable 128 v) : read (render v) = .ok v := by
  have hlen : (render v).toList.length ≤ 2 * (render v).length + 2 := by
    rw [String.length_toList]
    omega
  obtain ⟨c', hc', hr⟩ := (back _).1 128 v hv hlen { rest := (render v).toList } [] (by simp)
  simp [read, hr, Cursor.skipBlank_of_nil hc', hc']

end ReefLink.Json
