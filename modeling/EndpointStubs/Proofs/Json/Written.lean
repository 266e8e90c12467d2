import EndpointStubs.Json.Reader
import EndpointStubs.Json.Writer
import EndpointStubs.Proofs.Text.Pieces
import EndpointStubs.Proofs.Text.Quoted

/-!
# Values that are written and read

A character is written as itself, or as an escape that stands for it, so a string is read as the
text that was written. A value on one line has no blanks around its tokens, and its first character
tells what it is; so it is read as itself, whatever follows it, if its strings and the names of its
fields have texts. Numbers are left out, as they end where what follows is no part of one.

    readString (s.toList.flatMap escape ++ '"' :: rest) = some (some s, rest)
    j.IsTextual → read j.compact = some j
-/

namespace EndpointStubs.Json

/-! ## Strings -/

theorem hexFour_of_lt : ∀ n < 0x20,
    hexFour n = ['0', '0', Nat.digitChar (n / 16), Nat.digitChar (n % 16)] ∧
      hexFour? '0' '0' (Nat.digitChar (n / 16)) (Nat.digitChar (n % 16)) = some n := by
  decide

theorem readUnits_hexFour {n : Nat} (h : n < 0x20) (cs : List Char) :
    readUnits ('\\' :: 'u' :: (hexFour n ++ cs)) =
      (readUnits cs).map fun r => (n :: r.1, r.2) := by
  obtain ⟨hdigits, hread⟩ := hexFour_of_lt n h
  rw [hdigits]
  simp only [List.cons_append, List.nil_append, readUnits, hread]

/-- What a character is written as is read as its code unit. -/
theorem readUnits_escape (c : Char) (cs : List Char) :
    readUnits (escape c ++ cs) = (readUnits cs).map fun r => (c.toNat :: r.1, r.2) := by
  by_cases hshort : c ∈ ['"', '\\', '\n', '\r', '\t', '\x08', '\x0c']
  · simp only [List.mem_cons, List.not_mem_nil, or_false] at hshort
    rcases hshort with rfl | rfl | rfl | rfl | rfl | rfl | rfl <;> rfl
  · simp only [List.mem_cons, List.not_mem_nil, or_false, not_or] at hshort
    obtain ⟨hquote, hbackslash, hline, hreturn, htab, hbackspace, hfeed⟩ := hshort
    unfold escape
    rw [if_neg hquote, if_neg hbackslash, if_neg hline, if_neg hreturn, if_neg htab,
      if_neg hbackspace, if_neg hfeed]
    split
    · rename_i hcontrol
      exact readUnits_hexFour hcontrol cs
    · rename_i hcontrol
      simp [readUnits, hbackslash, hcontrol]

/-- The characters of a written string are read back up to its closing quote. -/
theorem readUnits_written (cs rest : List Char) :
    readUnits (cs.flatMap escape ++ '"' :: rest) = some (cs.map Char.toNat, rest) := by
  induction cs with
  | nil => rfl
  | cons c cs ih =>
    rw [List.flatMap_cons, List.append_assoc, readUnits_escape, ih]
    rfl

/-- The code units of characters are no surrogates, so they are those characters. -/
theorem characters?_toNat (cs : List Char) : characters? (cs.map Char.toNat) = some cs := by
  induction cs with
  | nil => rfl
  | cons c cs ih =>
    have hvalid : c.toNat < 0xd800 ∨ 0xdfff < c.toNat ∧ c.toNat < 0x110000 := c.valid
    have hsurrogate : ¬(0xd800 ≤ c.toNat ∧ c.toNat < 0xdc00) := by omega
    rw [List.map_cons, characters?.eq_def]
    simp only [if_neg hsurrogate, Text.Quoted.charOf?_toNat, ih, Option.map_some]

/-- A string is read as the text that was written. -/
theorem readString_written (s : String) (rest : List Char) :
    readString (s.toList.flatMap escape ++ '"' :: rest) = some (some s, rest) := by
  simp [readString, readUnits_written, characters?_toNat]

/-! ## Values -/

/-- Every string has a text, every field a name, and there are no numbers. -/
inductive IsTextual : Json → Prop
  | null : IsTextual .null
  | bool (b : Bool) : IsTextual (.bool b)
  | string (s : String) : IsTextual (ofString s)
  | array {items : List Json} (h : ∀ j ∈ items, IsTextual j) : IsTextual (.array items)
  | object {fields : List (String × Json)} (h : ∀ f ∈ fields, IsTextual f.2) :
      IsTextual (ofFields fields)

/-- Starts with the first character of a value, and is read as itself whatever follows. -/
structure ReadsBack (j : Json) : Prop where
  head : ∃ c cs, j.write = c :: cs ∧ isBlank c = false ∧ c ≠ ']'
  value : ∀ {fuel : Nat} (rest : List Char), j.write.length ≤ fuel →
    readValue fuel (j.write ++ rest) = some (j, rest)

theorem skipBlanks_cons {c : Char} (h : isBlank c = false) (cs : List Char) :
    skipBlanks (c :: cs) = c :: cs := by
  simp [skipBlanks, h]

theorem writeItems_eq_map (js : List Json) : writeItems js = js.map write := by
  induction js with
  | nil => rfl
  | cons j js ih => rw [writeItems, ih, List.map_cons]

-- Every value has a first character, so only positive fuel can suffice.
theorem ReadsBack.of_pos {j : Json} {c : Char} {cs : List Char} (hwrite : j.write = c :: cs)
    (hblank : isBlank c = false) (hclose : c ≠ ']')
    (h : ∀ {fuel : Nat} (rest : List Char), j.write.length ≤ fuel + 1 →
      readValue (fuel + 1) (j.write ++ rest) = some (j, rest)) : ReadsBack j := by
  refine ⟨⟨c, cs, hwrite, hblank, hclose⟩, fun {fuel} rest hfuel => ?_⟩
  cases fuel with
  | zero =>
    rw [hwrite] at hfuel
    cases hfuel
  | succ fuel => exact h rest hfuel

theorem readsBack_null : ReadsBack .null := by
  refine .of_pos rfl (by decide) (by decide) fun rest _ => ?_
  simp [write, readValue, skipBlanks, isBlank]

theorem readsBack_bool (b : Bool) : ReadsBack (.bool b) := by
  cases b with
  | true =>
    refine .of_pos rfl (by decide) (by decide) fun rest _ => ?_
    simp [write, readValue, skipBlanks, isBlank]
  | false =>
    refine .of_pos rfl (by decide) (by decide) fun rest _ => ?_
    simp [write, readValue, skipBlanks, isBlank]

theorem readsBack_string (s : String) : ReadsBack (ofString s) := by
  refine .of_pos rfl (by decide) (by decide) fun rest _ => ?_
  have hwrite : (ofString s).write ++ rest = '"' :: (s.toList.flatMap escape ++ '"' :: rest) := by
    simp [ofString, write, writeString]
  rw [hwrite, readValue, skipBlanks_cons (by decide)]
  simp only [readString_written]
  rfl

/-! ## Items and fields -/

section
variable {fuel : Nat}

/-- An item before a comma is read, and reading goes on behind it. -/
theorem readItems_comma {j : Json} (hj : ReadsBack j) (hfuel : j.write.length ≤ fuel)
    (cs : List Char) :
    readItems (fuel + 1) (j.write ++ ',' :: cs) =
      (readItems fuel cs).map fun r => (j :: r.1, r.2) := by
  rw [readItems, hj.value _ hfuel]
  simp only [Option.bind_eq_bind, Option.bind_some, skipBlanks_cons (c := ',') (by decide)]
  cases readItems fuel cs <;> rfl

/-- The last item is read up to the closing bracket. -/
theorem readItems_close {j : Json} (hj : ReadsBack j) (hfuel : j.write.length ≤ fuel)
    (cs : List Char) : readItems (fuel + 1) (j.write ++ ']' :: cs) = some ([j], cs) := by
  rw [readItems, hj.value _ hfuel]
  rfl

def writeField (f : String × Json) : List Char := writeString f.1 ++ ':' :: f.2.write

theorem writeFields_eq_map (fs : List (String × Json)) :
    writeFields (fs.map fun f => (some f.1, f.2)) = fs.map writeField := by
  induction fs with
  | nil => rfl
  | cons f fs ih => rw [List.map_cons, writeFields, ih, List.map_cons, writeField, Option.getD_some]

theorem writeField_append (f : String × Json) (cs : List Char) :
    writeField f ++ cs = '"' :: (f.1.toList.flatMap escape ++ '"' :: ':' :: (f.2.write ++ cs)) := by
  simp [writeField, writeString]

theorem readFields_comma {f : String × Json} (hf : ReadsBack f.2)
    (hfuel : f.2.write.length ≤ fuel) (cs : List Char) :
    readFields (fuel + 1) (writeField f ++ ',' :: cs) =
      (readFields fuel cs).map fun r => ((some f.1, f.2) :: r.1, r.2) := by
  rw [writeField_append, readFields, skipBlanks_cons (by decide)]
  simp only [readString_written, Option.bind_eq_bind, Option.bind_some,
    skipBlanks_cons (c := ':') (by decide), hf.value _ hfuel,
    skipBlanks_cons (c := ',') (by decide)]
  cases readFields fuel cs <;> rfl

theorem readFields_close {f : String × Json} (hf : ReadsBack f.2)
    (hfuel : f.2.write.length ≤ fuel) (cs : List Char) :
    readFields (fuel + 1) (writeField f ++ '}' :: cs) = some ([(some f.1, f.2)], cs) := by
  rw [writeField_append, readFields, skipBlanks_cons (by decide)]
  simp only [readString_written, Option.bind_eq_bind, Option.bind_some,
    skipBlanks_cons (c := ':') (by decide), hf.value _ hfuel]
  rfl

end

theorem join_comma_cons_cons (p q : List Char) (ps : List (List Char)) :
    Text.join [','] (p :: q :: ps) = p ++ ',' :: Text.join [','] (q :: ps) := by
  simp [Text.join]

-- The induction that items and fields share: each has commas behind all but the last one.
/-- What reads one element before a comma or a closing mark reads a list of them. -/
theorem read_joined {α β : Type} {read : Nat → List Char → Option (List β × List Char)}
    {write : α → List Char} {value : α → β} {close : Char} {as : List α} (hne : as ≠ [])
    (hcomma : ∀ a ∈ as, ∀ fuel cs, (write a).length ≤ fuel →
      read (fuel + 1) (write a ++ ',' :: cs) = (read fuel cs).map fun r => (value a :: r.1, r.2))
    (hclose : ∀ a ∈ as, ∀ fuel cs, (write a).length ≤ fuel →
      read (fuel + 1) (write a ++ close :: cs) = some ([value a], cs))
    {fuel : Nat} (rest : List Char) (hfuel : (Text.join [','] (as.map write)).length < fuel) :
    read fuel (Text.join [','] (as.map write) ++ close :: rest) = some (as.map value, rest) := by
  induction as generalizing fuel with
  | nil => exact absurd rfl hne
  | cons a as ih =>
    obtain ⟨fuel, rfl⟩ := Nat.exists_eq_add_one_of_ne_zero (Nat.ne_zero_of_lt hfuel)
    cases as with
    | nil =>
      rw [List.map_singleton, Text.join] at hfuel ⊢
      exact hclose a List.mem_cons_self fuel rest (Nat.le_of_lt_succ hfuel)
    | cons b bs =>
      rw [List.map_cons, List.map_cons, join_comma_cons_cons] at hfuel ⊢
      rw [List.length_append, List.length_cons] at hfuel
      have hbs : read fuel (Text.join [','] ((b :: bs).map write) ++ close :: rest) =
          some ((b :: bs).map value, rest) := by
        apply ih (List.cons_ne_nil b bs)
        · exact fun c hc => hcomma c (List.mem_cons_of_mem a hc)
        · exact fun c hc => hclose c (List.mem_cons_of_mem a hc)
        · rw [List.map_cons]
          omega
      rw [List.append_assoc, List.cons_append, hcomma a List.mem_cons_self fuel _ (by omega),
        ← List.map_cons, hbs]
      rfl

/-- Items are read up to the bracket that closes them. -/
theorem readItems_written {items : List Json} (hne : items ≠ []) (h : ∀ j ∈ items, ReadsBack j)
    {fuel : Nat} (rest : List Char) (hfuel : (Text.join [','] (items.map write)).length < fuel) :
    readItems fuel (Text.join [','] (items.map write) ++ ']' :: rest) = some (items, rest) := by
  have hread := read_joined hne
    (fun j hj _ cs hlen => readItems_comma (h j hj) hlen cs)
    (fun j hj _ cs hlen => readItems_close (h j hj) hlen cs) rest hfuel
  rwa [List.map_id'] at hread

theorem length_write_le (f : String × Json) : f.2.write.length ≤ (writeField f).length := by
  simp only [writeField, List.length_append, List.length_cons]
  omega

/-- Fields are read up to the brace that closes them. -/
theorem readFields_written {fields : List (String × Json)} (hne : fields ≠ [])
    (h : ∀ f ∈ fields, ReadsBack f.2) {fuel : Nat} (rest : List Char)
    (hfuel : (Text.join [','] (fields.map writeField)).length < fuel) :
    readFields fuel (Text.join [','] (fields.map writeField) ++ '}' :: rest) =
      some (fields.map fun f => (some f.1, f.2), rest) := by
  refine read_joined hne (fun f hf _ cs hlen => ?_) (fun f hf _ cs hlen => ?_) rest hfuel
  · exact readFields_comma (h f hf) (Nat.le_trans (length_write_le f) hlen) cs
  · exact readFields_close (h f hf) (Nat.le_trans (length_write_le f) hlen) cs

/-! ## Arrays and objects -/

theorem exists_join_comma_eq_cons (c : Char) (cs : List Char) (ps : List (List Char)) :
    ∃ ds, Text.join [','] ((c :: cs) :: ps) = c :: ds := by
  cases ps with
  | nil => exact ⟨cs, rfl⟩
  | cons p ps => exact ⟨_, rfl⟩

theorem readsBack_array {items : List Json} (h : ∀ j ∈ items, ReadsBack j) :
    ReadsBack (.array items) := by
  refine .of_pos rfl (by decide) (by decide) fun {fuel} rest hfuel => ?_
  have hwrite : (Json.array items).write ++ rest =
      '[' :: (Text.join [','] (items.map write) ++ ']' :: rest) := by
    simp [write, writeItems_eq_map]
  have hlen : (Json.array items).write.length = (Text.join [','] (items.map write)).length + 2 := by
    simp [write, writeItems_eq_map]
  rw [hwrite, readValue, skipBlanks_cons (by decide)]
  by_cases hne : items = []
  · rw [hne]
    rfl
  · have hread := readItems_written hne h rest (by omega : _ < fuel)
    obtain ⟨j, js, rfl⟩ := List.exists_cons_of_ne_nil hne
    obtain ⟨c, cs, hj, hblank, hclose⟩ := (h j List.mem_cons_self).head
    obtain ⟨ds, hjoin⟩ := exists_join_comma_eq_cons c cs (js.map write)
    rw [← hj, ← List.map_cons] at hjoin
    rw [hjoin, List.cons_append] at hread ⊢
    simp only [skipBlanks_cons hblank]
    split
    · rename_i heq
      cases heq
      exact absurd rfl hclose
    · rw [hread]
      rfl

/-- An object is read back if each of its values is. -/
theorem readsBack_object {fields : List (String × Json)} (h : ∀ f ∈ fields, ReadsBack f.2) :
    ReadsBack (ofFields fields) := by
  refine .of_pos rfl (by decide) (by decide) fun {fuel} rest hfuel => ?_
  have hwrite : (ofFields fields).write ++ rest =
      '{' :: (Text.join [','] (fields.map writeField) ++ '}' :: rest) := by
    simp [ofFields, write, writeFields_eq_map]
  have hlen : (ofFields fields).write.length =
      (Text.join [','] (fields.map writeField)).length + 2 := by
    simp [ofFields, write, writeFields_eq_map]
  rw [hwrite, readValue, skipBlanks_cons (by decide)]
  by_cases hne : fields = []
  · rw [hne]
    rfl
  · have hread := readFields_written hne h rest (by omega : _ < fuel)
    obtain ⟨f, fs, rfl⟩ := List.exists_cons_of_ne_nil hne
    obtain ⟨ds, hjoin⟩ := exists_join_comma_eq_cons '"'
      (f.1.toList.flatMap escape ++ ['"'] ++ ':' :: f.2.write) (fs.map writeField)
    change Text.join [','] ((f :: fs).map writeField) = _ at hjoin
    rw [hjoin, List.cons_append] at hread ⊢
    simp only [skipBlanks_cons (c := '"') (by decide)]
    split
    · rename_i heq
      exact absurd heq (by simp)
    · rw [hread]
      rfl

/-! ## Whole texts -/

/-- The values that a value is made of are read back, so it is itself. -/
theorem IsTextual.readsBack {j : Json} (h : j.IsTextual) : j.ReadsBack := by
  induction h with
  | null => exact readsBack_null
  | bool b => exact readsBack_bool b
  | string s => exact readsBack_string s
  | array _ ih => exact readsBack_array ih
  | object _ ih => exact readsBack_object ih

/-- **A textual value on one line is read as itself.** -/
theorem IsTextual.read_compact {j : Json} (h : j.IsTextual) : read j.compact = some j := by
  have hread := h.readsBack.value [] (Nat.le_succ_of_le (Nat.le_succ_of_le
    (Nat.le_mul_of_pos_left j.write.length (by decide : 0 < 2))))
  rw [List.append_nil] at hread
  unfold read compact
  simp only [String.toList_ofList, hread]
  rfl

end EndpointStubs.Json
