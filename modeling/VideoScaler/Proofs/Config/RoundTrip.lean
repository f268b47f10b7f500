import VideoScaler.Config.File
import VideoScaler.Proofs.Dimensions.Default
import VideoScaler.Proofs.Toml.Lines

/-! Configurations that are stored are loaded again.

In a document every field is there, with null for what is unset; in a file the fields that are
unset are missing. A field that is missing keeps its default, which is what null stands for, so both
forms give the same configuration back.
-/

set_option autoImplicit false

namespace VideoScaler

theorem ScaleAlgorithm.find?_name (a : ScaleAlgorithm) :
    all.find? (fun b => b.name == a.name) = some a := by
  cases a <;> decide

theorem ColorProfile.find?_name (p : ColorProfile) :
    all.find? (fun b => b.name == p.name) = some p := by
  cases p <;> decide

theorem RangeOverride.find?_name (r : RangeOverride) :
    all.find? (fun b => b.name == r.name) = some r := by
  cases r <;> decide

theorem AspectPolicy.find?_name (p : AspectPolicy) :
    all.find? (fun b => b.name == p.name) = some p := by
  cases p <;> decide

theorem Primaries.find?_name (p : Primaries) :
    all.find? (fun b => b.name == p.name) = some p := by
  cases p <;> decide

theorem Transfer.find?_name (t : Transfer) :
    all.find? (fun b => b.name == t.name) = some t := by
  cases t <;> decide

namespace ScaleConfig

open Document (UnitForm)
open Toml (present stored)

theorem readFormat?_formatName (f : Option PixelFormat) :
    readFormat? (.text (formatName f)) = some f := by
  cases f with
  | none => rfl
  | some f => cases f <;> rfl

theorem readUInt32?_toNat (n : UInt32) : (Document.integer n.toNat).readUInt32? = some n := by
  have bound := n.toNat_lt
  have inside : (0 : Int) ≤ n.toNat ∧ (n.toNat : Int) ≤ 4294967295 := by omega
  simp only [Document.readUInt32?, Document.readInteger?, if_pos inside, Option.map_some,
    Int.toNat_natCast, UInt32.ofNat_toNat]

/-- Are these the fields of a configuration, with or without those that are null? -/
def Shows (c : ScaleConfig) (entries : List (String × Document)) : Prop :=
  entries = fieldsOf c.toDocument ∨ entries = stored (fieldsOf c.toDocument)

variable {c x : ScaleConfig} {unit : UnitForm} {entries : List (String × Document)}
  {keys : List String} {d : Document}

theorem under_stored (keys : List String) (fields : List (String × Document)) :
    Document.under keys (stored fields) = (Document.under keys fields).filter present := by
  simp only [Document.under, stored, List.filter_map, List.filter_filter, Function.comp_def,
    Bool.and_comm]

theorem Shows.under (shows : c.Shows entries)
    (one : Document.under keys (fieldsOf c.toDocument) = [d]) :
    Document.under keys entries = [d] ∨ (d = .null ∧ Document.under keys entries = []) := by
  rcases shows with rfl | rfl
  · exact .inl one
  · rw [under_stored, one]
    cases d <;> simp [present]

section
variable {α : Type} (shows : c.Shows entries)
include shows

theorem Shows.load?_eq {read : UnitForm → Document → Option α}
    {put : α → ScaleConfig → ScaleConfig} {a : α} (d : Document) (there : present d = true)
    (one : Document.under keys (fieldsOf c.toDocument) = [d]) (reads : read unit d = some a) :
    Field.load? ⟨keys, fun unit d c => (read unit d).map fun a => put a c⟩ unit entries x
      = some (put a x) := by
  rcases shows.under one with found | ⟨rfl, -⟩
  · simp only [Field.load?, found, reads, Option.map_some]
  · cases there

/-- An optional field is null when it is unset, which leaves a configuration without it alone. -/
theorem Shows.load?_optional {all : List α} {name : α → String} {o : Option α}
    {put : Option α → ScaleConfig → ScaleConfig}
    (one : Document.under keys (fieldsOf c.toDocument) = [optional name o])
    (named : ∀ a, all.find? (fun b => name b == name a) = some a) (unset : put none x = x) :
    Field.load? ⟨keys, fun unit d c =>
        (d.readOptional? fun d => d.readNamed? unit all name).map fun p => put p c⟩ unit entries x
      = some (put o x) := by
  cases o with
  | none =>
    rcases shows.under one with found | ⟨-, missing⟩
    · simp only [Field.load?, found, optional, Document.readOptional?, Option.map_some]
    · simp only [Field.load?, missing, unset]
  | some a =>
    have read : (Document.text (name a)).readNamed? unit all name = some a :=
      Document.readNamed?_text (named a)
    rcases shows.under one with found | ⟨null, -⟩
    · simp only [Field.load?, found, optional, Document.readOptional?, read, Option.map_some]
    · cases null

end

theorem foldlM_load?_cons {field : Field} {fields : List Field} {y z : ScaleConfig}
    (first : field.load? unit entries x = some y)
    (rest : fields.foldlM (fun c field => field.load? unit entries c) y = some z) :
    (field :: fields).foldlM (fun c field => field.load? unit entries c) x = some z := by
  rw [List.foldlM_cons, first]
  exact rest

theorem Shows.ofTable?_eq (shows : c.Shows entries) : ofTable? unit entries = some c := by
  unfold ofTable? fields
  refine foldlM_load?_cons (shows.load?_eq (.text c.width) rfl rfl rfl) ?_
  refine foldlM_load?_cons (shows.load?_eq (.text c.height) rfl rfl rfl) ?_
  refine foldlM_load?_cons (shows.load?_eq (.text (formatName c.format)) rfl rfl
    (readFormat?_formatName c.format)) ?_
  refine foldlM_load?_cons (shows.load?_eq (.text c.algorithm.name) rfl rfl
    (Document.readNamed?_text (ScaleAlgorithm.find?_name c.algorithm))) ?_
  refine foldlM_load?_cons (shows.load?_optional rfl ColorProfile.find?_name rfl) ?_
  refine foldlM_load?_cons (shows.load?_optional rfl RangeOverride.find?_name rfl) ?_
  refine foldlM_load?_cons (shows.load?_optional rfl Primaries.find?_name rfl) ?_
  refine foldlM_load?_cons (shows.load?_optional rfl Transfer.find?_name rfl) ?_
  refine foldlM_load?_cons (shows.load?_eq (.text c.aspect.name) rfl rfl
    (Document.readNamed?_text (AspectPolicy.find?_name c.aspect))) ?_
  refine foldlM_load?_cons (shows.load?_eq (.integer c.divisor.toNat) rfl rfl
    (readUInt32?_toNat c.divisor)) ?_
  rfl

theorem keys_eq (c : ScaleConfig) : (fieldsOf c.toDocument).map Prod.fst =
    ["width", "height", "format", "scale-type", "color-profile", "color-range", "primaries", "trc",
      "force-original-aspect-ratio", "force-divisible-by"] := rfl

theorem writes_optional {α : Type} (name : α → String) (o : Option α) :
    optional name o = .null ∨ ∃ value, Toml.Writes (optional name o) value := by
  cases o with
  | none => exact .inl rfl
  | some a => exact .inr ⟨_, .text (name a)⟩

theorem writable_toDocument (c : ScaleConfig) : Toml.Writable (fieldsOf c.toDocument) where
  bare field member := by
    have known := List.mem_map_of_mem (f := Prod.fst) member
    have all : ∀ key ∈ (fieldsOf c.toDocument).map Prod.fst, Toml.Bare key := by
      rw [keys_eq]
      decide
    exact all field.1 known
  written := by
    have text (s : String) : Document.text s = .null ∨ ∃ value, Toml.Writes (.text s) value :=
      .inr ⟨_, .text s⟩
    have divisor : Document.integer c.divisor.toNat = .null ∨
        ∃ value, Toml.Writes (.integer c.divisor.toNat) value := by
      have bound := c.divisor.toNat_lt
      exact .inr ⟨_, .number (by omega)⟩
    simp only [fieldsOf, toDocument, List.forall_mem_cons]
    exact ⟨text _, text _, text _, text _, writes_optional .., writes_optional ..,
      writes_optional .., writes_optional .., text _, divisor, nofun⟩

theorem read?_toToml (c : ScaleConfig) :
    (Toml.read? c.toToml).bind (ofDocument? .empty) = some c := by
  have distinct : ((fieldsOf c.toDocument).map Prod.fst).Nodup := by
    rw [keys_eq]
    decide
  rw [toToml, Toml.read?_write (writable_toDocument c) distinct]
  exact Shows.ofTable?_eq (.inr rfl)

theorem ofToml_toToml (c : ScaleConfig) : ofToml c.toToml = c.validate.map fun _ => c := by
  rw [ofToml, read?_toToml]

theorem validate_of_ofToml {source : String} (loaded : ofToml source = .ok c) :
    c.validate = .ok () := by
  unfold ofToml at loaded
  split at loaded
  · cases loaded
  case h_2 other _ =>
    cases valid : other.validate with
    | error e =>
      rw [valid] at loaded
      cases loaded
    | ok =>
      rw [valid] at loaded
      cases loaded
      exact valid

/-- A valid configuration comes back from its file, every configuration from its document, and what
any file was read as from the file that is written for it. -/
theorem stored_is_loaded :
    (∀ c : ScaleConfig, c.validate = .ok () → ofToml c.toToml = .ok c) ∧
    (∀ (unit : UnitForm) (c : ScaleConfig), ofDocument? unit c.toDocument = some c) ∧
    ∀ (source : String) (c : ScaleConfig), ofToml source = .ok c → ofToml c.toToml = .ok c := by
  have valid (c : ScaleConfig) (valid : c.validate = .ok ()) : ofToml c.toToml = .ok c := by
    rw [ofToml_toToml, valid]
    rfl
  exact ⟨valid, fun _ _ => Shows.ofTable?_eq (.inl rfl),
    fun _ c loaded => valid c (validate_of_ofToml loaded)⟩

def spacedConfig : ScaleConfig :=
  { width := "\t\x0c\r\n iw", format := some .p010, profile := some .jpeg, divisor := 2 }

theorem validate_spacedConfig : spacedConfig.validate = .ok () := by
  have word : Expression.Token.Lexes "iw".toList [.word "iw"] :=
    (Expression.Token.Spelling.word (c := 'i') (by decide) (List.forall_mem_singleton.2 rfl)).lexes
  have lexed : Expression.Token.Lexes spacedConfig.width.toList [.word "iw"] :=
    .blank (by decide) (.blank (by decide) (.blank (by decide) (.blank (by decide)
      (.blank (by decide) word))))
  have width : Expression.parse spacedConfig.width = .ok ⟨spacedConfig.width, .var .inW⟩ :=
    Expression.parse_of_derives lexed (.product (.signed (.operand (.var (by decide)))))
  show (Expression.parse spacedConfig.width >>= fun _ => Expression.parse "ih" >>= fun _ => _) = _
  rw [width, Dimensions.parse_ih]
  rfl

def aliasFields : List (String × Document) :=
  [("w", .text "iw"), ("format", .text " P010le")]

theorem readFormat?_padded : readFormat? (.text " P010le") = some (some .p010) := by
  have letters : (Text.trimList " P010le".toList).map Char.toLower = "p010le".toList := by decide
  have word : Text.keyword " P010le" = "p010le" := by
    rw [Text.keyword, Text.lowerAscii, Text.trim, String.toList_ofList, letters,
      String.ofList_toList]
  rw [readFormat?, Document.readText?, Option.bind_some, PixelFormat.parseOutput, word]
  rfl

theorem ofDocument?_aliasFields :
    ofDocument? .empty (.table (Toml.stored aliasFields)) = some { format := some .p010 } := by
  show (readFormat? (.text " P010le")).map (fun f => ({ format := f } : ScaleConfig)) = _
  rw [readFormat?_padded]
  rfl

theorem validate_p010 : ({ format := some .p010 } : ScaleConfig).validate = .ok () := by
  show (Expression.parse "iw" >>= fun _ => Expression.parse "ih" >>= fun _ => _) = _
  rw [Dimensions.parse_iw, Dimensions.parse_ih]
  rfl

theorem ofToml_aliasFields :
    ofToml (Toml.write aliasFields) = .ok { format := some .p010 } := by
  have writable : Toml.Writable aliasFields :=
    { bare := by decide
      written := by
        simp only [aliasFields, List.forall_mem_cons]
        exact ⟨.inr ⟨_, .text _⟩, .inr ⟨_, .text _⟩, nofun⟩ }
  rw [ofToml, Toml.read?_write writable (by decide), Option.bind_some, ofDocument?_aliasFields]
  exact congrArg (Except.map fun _ => _) validate_p010

theorem spaced_is_loaded :
    spacedConfig.validate = .ok () ∧ ofToml spacedConfig.toToml = .ok spacedConfig ∧
    ofToml (Toml.write aliasFields) = .ok { format := some .p010 } ∧
    ofToml (toToml { format := some .p010 }) = .ok { format := some .p010 } :=
  ⟨validate_spacedConfig, stored_is_loaded.1 _ validate_spacedConfig, ofToml_aliasFields,
    stored_is_loaded.2.2 _ _ ofToml_aliasFields⟩

end ScaleConfig

end VideoScaler
