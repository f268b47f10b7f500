import VideoScaler.Proofs.Toml.Numeral
import VideoScaler.Proofs.Toml.Quoted
import VideoScaler.Toml.Reader
import VideoScaler.Toml.Writer

/-! Files that are written are read back.

Every field is a line of its own, and null fields are none. A line is read back whatever comes after
it, so that fields with different keys are read back one after the other.
-/

set_option autoImplicit false

namespace VideoScaler.Toml

/-- The values that can be written, with what is written for them. -/
inductive Writes : Document → List Char → Prop where
  | text (s : String) : Writes (.text s) (writeText s.toList)
  | number {n : Nat} (bound : n ≤ 9223372036854775807) :
    Writes (.integer n) (toString (n : Int)).toList

variable {d : Document} {value : List Char} {key : String} {entries : Entries}

theorem Writes.writeValue?_eq (writes : Writes d value) : writeValue? d = some value := by
  cases writes <;> rfl

theorem Writes.cons (writes : Writes d value) :
    ∃ c others, value = c :: others ∧ (c = '"' ∨ c.isDigit = true) := by
  cases writes with
  | text s =>
    unfold writeText
    split <;> exact ⟨_, _, rfl, .inl rfl⟩
  | @number n bound =>
    rw [toList_toString]
    obtain ⟨c, others, same, digit, -⟩ := (numeral_toDigits n).cons
    exact ⟨c, others, same, .inr digit⟩

theorem Writes.readValue?_eq (writes : Writes d value) (depth : Nat) (rest : List Char) :
    readValue? depth (value ++ '\n' :: rest) = some (d, '\n' :: rest) := by
  have scalar : readValue? depth (value ++ '\n' :: rest)
      = ((readText? (value ++ '\n' :: rest)).map (fun r => (.text r.1, r.2))
          <|> readScalar? (value ++ '\n' :: rest)) := by
    obtain ⟨c, others, rfl, first⟩ := writes.cons
    have list : c ≠ '[' := by
      rintro rfl
      revert first
      decide
    have table : c ≠ '\x7b' := by
      rintro rfl
      revert first
      decide
    rw [List.cons_append, readValue?.eq_def]
    simp [list, table]
  rw [scalar]
  cases writes with
  | text s =>
    rw [readText?, readQuoted?_writeText s.toList (by decide)]
    simp [String.ofList_toList]
  | @number n bound =>
    have numeral := numeral_toDigits n
    rw [toList_toString, numeral.readScalar? rest bound]
    obtain ⟨c, others, same, digit, -⟩ := numeral.cons
    have quote : c ≠ '"' := ne_of_class digit (by decide)
    have apostrophe : c ≠ '\'' := ne_of_class digit (by decide)
    have none : readText? (Nat.toDigits 10 n ++ '\n' :: rest) = none := by
      rw [same, readText?, List.cons_append]
      simp [readQuoted?, quote, apostrophe]
    rw [none]
    rfl

structure Bare (key : String) : Prop where
  nonempty : key.toList ≠ []
  all : ∀ c ∈ key.toList, isKeyChar c = true

instance (key : String) : Decidable (Bare key) :=
  decidable_of_iff (key.toList ≠ [] ∧ key.toList.all isKeyChar = true)
    ⟨fun h => ⟨h.1, List.all_eq_true.1 h.2⟩, fun h => ⟨h.nonempty, List.all_eq_true.2 h.all⟩⟩

theorem Bare.cons (bare : Bare key) :
    ∃ c others, key.toList = c :: others ∧ isKeyChar c = true := by
  cases shape : key.toList with
  | nil => exact absurd shape bare.nonempty
  | cons c others => exact ⟨c, others, rfl, bare.all c (by rw [shape]; exact List.mem_cons_self)⟩

theorem skipSpaces_cons {c : Char} (space : c ≠ ' ') (tab : c ≠ '\t') (s : List Char) :
    skipSpaces (c :: s) = c :: s :=
  List.dropWhile_cons_of_neg (by simp [isSpace, space, tab])

theorem Bare.skipSpaces_eq (bare : Bare key) (rest : List Char) :
    skipSpaces (key.toList ++ rest) = key.toList ++ rest := by
  obtain ⟨c, others, same, char⟩ := bare.cons
  rw [same, List.cons_append, skipSpaces_cons (ne_of_class char (by decide))
    (ne_of_class char (by decide))]

theorem Bare.readKey?_eq (bare : Bare key) (parts : Nat) (rest : List Char) :
    readKey? (parts + 1) (key.toList ++ ' ' :: '=' :: rest) = some (([], key), '=' :: rest) := by
  have chars : readKeyChars? (key.toList ++ ' ' :: '=' :: rest)
      = some (key.toList, ' ' :: '=' :: rest) := by
    have taken : (key.toList ++ ' ' :: '=' :: rest).takeWhile isKeyChar = key.toList := by
      rw [List.takeWhile_append_of_pos bare.all, List.takeWhile_cons_of_neg (by decide),
        List.append_nil]
    have left : (key.toList ++ ' ' :: '=' :: rest).dropWhile isKeyChar = ' ' :: '=' :: rest := by
      rw [List.dropWhile_append_of_pos bare.all, List.dropWhile_cons_of_neg (by decide)]
    obtain ⟨c, others, same, char⟩ := bare.cons
    have quote : c ≠ '"' := ne_of_class char (by decide)
    have apostrophe : c ≠ '\'' := ne_of_class char (by decide)
    rw [same] at taken left ⊢
    rw [List.cons_append] at taken left ⊢
    simp [readKeyChars?, quote, apostrophe, taken, left]
  have part : readKeyPart? (key.toList ++ ' ' :: '=' :: rest) = some (key, '=' :: rest) := by
    rw [readKeyPart?, bare.skipSpaces_eq, chars, Option.map_some, String.ofList_toList]
    rfl
  rw [readKey?, part]
  rfl

theorem Entries.within_set (new : entries.lookup key = none) :
    Entries.within [] (Entries.set [] key d) entries = some (entries.add key (.value d)) := by
  simp [within, set, descend, new]

theorem Writes.skipSpaces_eq (writes : Writes d value) (rest : List Char) :
    skipSpaces (' ' :: (value ++ rest)) = value ++ rest := by
  obtain ⟨c, others, rfl, first⟩ := writes.cons
  have stays : skipSpaces (c :: (others ++ rest)) = c :: (others ++ rest) := by
    rcases first with rfl | digit
    · rfl
    · exact skipSpaces_cons (ne_of_class digit (by decide)) (ne_of_class digit (by decide)) _
  exact stays

theorem readPair?_field (bare : Bare key) (writes : Writes d value) (rest : List Char) :
    readPair? (readValue? depthLimit)
        (key.toList ++ ' ' :: '=' :: ' ' :: (value ++ '\n' :: rest))
      = some (([], key), d, '\n' :: rest) := by
  have named : readKey? depthLimit (key.toList ++ ' ' :: '=' :: ' ' :: (value ++ '\n' :: rest))
      = some (([], key), '=' :: ' ' :: (value ++ '\n' :: rest)) := bare.readKey?_eq (depthLimit - 1) _
  rw [readPair?, named]
  show (readValue? depthLimit (skipSpaces (' ' :: (value ++ '\n' :: rest))) >>= _) = _
  rw [writes.skipSpaces_eq, writes.readValue?_eq]
  rfl

theorem readLines?_field (bare : Bare key) (writes : Writes d value)
    (new : entries.lookup key = none) (steps : Nat) (rest : List Char) :
    readLines? (steps + 1) [] entries
        (key.toList ++ ' ' :: '=' :: ' ' :: (value ++ '\n' :: rest))
      = readLines? steps [] (entries.add key (.value d)) rest := by
  have pair := readPair?_field bare writes rest
  have line := bare.skipSpaces_eq (' ' :: '=' :: ' ' :: (value ++ '\n' :: rest))
  obtain ⟨c, others, same, char⟩ := bare.cons
  have header : c ≠ '[' := ne_of_class char (by decide)
  have comment : c ≠ '#' := ne_of_class char (by decide)
  have feed : c ≠ '\n' := ne_of_class char (by decide)
  have carriage : c ≠ '\r' := ne_of_class char (by decide)
  rw [same, List.cons_append] at pair line ⊢
  have ended : endLine? ('\n' :: rest) = some rest := rfl
  rw [readLines?, line]
  simp [comment, feed, carriage, pair, Entries.within_set new, ended]

def present : Document → Bool
  | .null => false
  | _ => true

def stored (fields : List (String × Document)) : List (String × Document) :=
  fields.filter fun field => present field.2

/-- Fields that can be written: each is a line, or null and left out. -/
structure Writable (fields : List (String × Document)) : Prop where
  bare : ∀ field ∈ fields, Bare field.1
  written : ∀ field ∈ fields, field.2 = .null ∨ ∃ value, Writes field.2 value

variable {fields : List (String × Document)}

theorem Writable.tail {field : String × Document} (writable : Writable (field :: fields)) :
    Writable fields where
  bare other member := writable.bare other (List.mem_cons_of_mem _ member)
  written other member := writable.written other (List.mem_cons_of_mem _ member)

theorem Writable.head (writable : Writable ((key, d) :: fields)) :
    Bare key ∧ (d = .null ∨ ∃ value, Writes d value) :=
  ⟨writable.bare _ List.mem_cons_self, writable.written _ List.mem_cons_self⟩

theorem flatMap_null (key : String) (fields : List (String × Document)) :
    ((key, Document.null) :: fields).flatMap writeField = fields.flatMap writeField ∧
      stored ((key, .null) :: fields) = stored fields :=
  ⟨rfl, rfl⟩

theorem flatMap_written (key : String) (writes : Writes d value)
    (fields : List (String × Document)) :
    ((key, d) :: fields).flatMap writeField
        = key.toList ++ ' ' :: '=' :: ' ' :: (value ++ '\n' :: fields.flatMap writeField) ∧
      stored ((key, d) :: fields) = (key, d) :: stored fields := by
  have shown : present d = true := by cases writes <;> rfl
  refine ⟨?_, by simp [stored, shown]⟩
  simp [writeField, writes.writeValue?_eq]

theorem lookup_add_of_ne {other : String} (ne : key ≠ other) (node : Node) :
    (entries.add other node).lookup key = entries.lookup key := by
  rw [Entries.add, List.lookup_append, List.lookup_cons, beq_false_of_ne ne, List.lookup_nil,
    Option.or_none]

theorem readLines?_fields (writable : Writable fields) (distinct : (fields.map Prod.fst).Nodup)
    (new : ∀ field ∈ fields, entries.lookup field.1 = none) {steps : Nat}
    (enough : (stored fields).length < steps) :
    readLines? steps [] entries (fields.flatMap writeField)
      = some (entries ++ (stored fields).map fun field => (field.1, .value field.2)) := by
  induction fields generalizing entries steps with
  | nil =>
    obtain ⟨steps, rfl⟩ := Nat.exists_eq_succ_of_ne_zero (Nat.ne_zero_of_lt enough)
    simp [readLines?, skipSpaces, stored]
  | cons field fields ih =>
    obtain ⟨key, d⟩ := field
    rw [List.map_cons, List.nodup_cons] at distinct
    have behind : ∀ field ∈ fields, entries.lookup field.1 = none := fun other member =>
      new other (List.mem_cons_of_mem _ member)
    obtain ⟨bare, null | ⟨value, writes⟩⟩ := writable.head
    · subst null
      obtain ⟨text, kept⟩ := flatMap_null key fields
      rw [text, kept] at *
      exact ih writable.tail distinct.2 behind enough
    · obtain ⟨text, kept⟩ := flatMap_written key writes fields
      have later : ∀ field ∈ fields, (entries.add key (.value d)).lookup field.1 = none := by
        intro other member
        have ne : other.1 ≠ key := by
          rintro rfl
          exact distinct.1 (List.mem_map.2 ⟨other, member, rfl⟩)
        rw [lookup_add_of_ne ne, behind other member]
      obtain ⟨steps, rfl⟩ := Nat.exists_eq_succ_of_ne_zero (Nat.ne_zero_of_lt enough)
      rw [kept, List.length_cons] at enough
      rw [text, kept, readLines?_field bare writes (new _ List.mem_cons_self),
        ih writable.tail distinct.2 later (by omega), Entries.add, List.append_assoc]
      rfl

theorem entriesToFields_values (fields : List (String × Document)) :
    entriesToFields (fields.map fun field => (field.1, .value field.2)) = fields := by
  induction fields with
  | nil => rfl
  | cons field fields ih =>
    rw [List.map_cons, entriesToFields, ih]
    rfl

theorem dropMark_fields (writable : Writable fields) :
    dropMark (fields.flatMap writeField) = fields.flatMap writeField := by
  induction fields with
  | nil => rfl
  | cons field fields ih =>
    obtain ⟨key, d⟩ := field
    obtain ⟨bare, null | ⟨value, writes⟩⟩ := writable.head
    · subst null
      exact ih writable.tail
    · obtain ⟨c, others, same, char⟩ := bare.cons
      have mark : c ≠ '\ufeff' := ne_of_class char (by decide)
      rw [(flatMap_written key writes fields).1, same, List.cons_append]
      simp [dropMark, mark]

theorem length_stored_le (writable : Writable fields) :
    (stored fields).length ≤ (fields.flatMap writeField).length := by
  induction fields with
  | nil => exact Nat.le_refl _
  | cons field fields ih =>
    obtain ⟨key, d⟩ := field
    have before := ih writable.tail
    obtain ⟨bare, null | ⟨value, writes⟩⟩ := writable.head
    · subst null
      exact before
    · obtain ⟨text, kept⟩ := flatMap_written key writes fields
      rw [text, kept]
      simp only [List.length_append, List.length_cons]
      omega

/-- Fields with different keys are read back as the table that they are, without those that are
null. -/
theorem read?_write (writable : Writable fields) (distinct : (fields.map Prod.fst).Nodup) :
    read? (write fields) = some (.table (stored fields)) := by
  have lines : readLines? ((fields.flatMap writeField).length + 1) [] [] (fields.flatMap writeField)
      = some ([] ++ (stored fields).map fun field => (field.1, .value field.2)) :=
    readLines?_fields writable distinct (fun _ _ => rfl)
      (Nat.lt_succ_of_le (length_stored_le writable))
  rw [read?, write, String.toList_ofList, dropMark_fields writable, lines, Option.map_some,
    List.nil_append, entriesToFields_values]

end VideoScaler.Toml
