import EnumOrdering.Proofs.CutOff
import EnumOrdering.Proofs.FieldColumn
import EnumOrdering.Proofs.Json.Assembled

/-!
# The sources agree

The same definitions can be kept as the files of a directory, as single files, or as the
members of one document. A directory reads every text by itself and a document reads them
all at once, one container deeper and with texts for its names. Each gives a set just in
case that set and the definitions are as `Collects` says; so they give the same set, or
none of them gives any.
-/

namespace EnumOrdering

open Json

/-! ## Records -/

theorem skippable_fieldText {α : Type} {V : Grammar α} (hV : Skippable V) (name : String) :
    Skippable (FieldText V name) := by
  intro i m k h
  cases h with
  | value h => exact hV _ _ _ h
  | order h => exact .scalar h.skipped
  | other hv ho h => exact h

theorem skippable_recordText {α : Type} {V : Grammar α} (hV : Skippable V) :
    Skippable (RecordText V) := by
  intro i p k h
  cases h with
  | object h =>
      exact @SkippedValue.container .object _ _ (h.skipped_object (skippable_fieldText hV))
  | pair hl hv hl' ho hc =>
      refine @SkippedValue.container .array _ _ (.part hl .array (.refl _) (hV _ _ _ hv) ?_)
      exact .part hl' .array (.refl _) (.scalar ho.skipped) (.close hc)

theorem skippable_records (room : Nat) : Skippable (ArrayText (Record.Text room)) :=
  skippable_arrayText fun _ _ _ => skippable_recordText (skippable_valueText room) _ _ _

theorem sole_records (room : Nat) : Sole (ArrayText (Record.Text room)) :=
  sole_arrayText (Record.takes_read room)

/-- The depth at which a definition is read has no say in whether it is one: the values
that it may have are no containers. -/
theorem definitionText_iff_records (room : Nat) {bytes : Bytes} {pairs : List (String × Int64)} :
    DefinitionText bytes pairs ↔
      ∃ definition : Definition, Fills (ArrayText (Record.Text room)) bytes definition ∧
        definition.Says pairs := by
  constructor
  · rintro ⟨j, k, hj, ha, hk⟩
    cases ha with
    | mk hp =>
        obtain ⟨records, hm, hp⟩ := (Parts.mapM_iff (Record.recordText_key_iff room)).mp hp
        exact ⟨records, ⟨_, k, hj, .mk hp, hk⟩, Definition.mapM_pair?_eq_some_iff.mp hm⟩
  · rintro ⟨records, ⟨j, k, hj, ha, hk⟩, hs⟩
    cases ha with
    | mk hp =>
        have hm := Definition.mapM_pair?_eq_some_iff.mpr hs
        have hp := (Parts.mapM_iff (Record.recordText_key_iff room)).mpr ⟨_, hm, hp⟩
        exact ⟨_, k, hj, .mk hp, hk⟩

namespace Mapping

variable {origin : String} {bytes : Bytes} {m : Mapping}

theorem isText_of_parse (h : parse origin bytes = .ok m) : IsText bytes := by
  obtain ⟨pairs, hp, -⟩ := parse_eq_ok_iff.mp h
  obtain ⟨definition, hf, -⟩ := (definitionText_iff_records 0).mp hp
  exact hf.isText (skippable_records 0)

/-- Where a text comes from has no say in what it means. -/
theorem parse_origin (h : parse origin bytes = .ok m) (other : String) :
    parse other bytes = .ok m := parse_eq_ok_iff.mpr (parse_eq_ok_iff.mp h)

end Mapping

/-! ## Sets that hold definitions -/

/-- The set has the names of the sheets and no other, and under each of them the mapping of
its text. -/
structure Collects (sheets : List Sheet) (s : EnumerationSet) : Prop where
  names : ∀ name, (∃ m, s.get? name = some m) ↔ name ∈ sheets.map Sheet.name
  mappings : ∀ sheet ∈ sheets, ∃ m, (∀ origin, Mapping.parse origin sheet.text = .ok m) ∧
    s.get? sheet.name = some m

variable {sheets : List Sheet} {s : EnumerationSet}

/-! ## Directories -/

open Source

section
variable {directory : Bytes} {entries : List DirectoryEntry}

/-- The file that holds a sheet. -/
def Sheet.file (sheet : Sheet) : Bytes × Except Files.FileError Bytes :=
  (Bytes.ofText sheet.name, .ok sheet.text)

theorem collects_iff_gathers :
    Collects sheets s ↔ Gathers directory (sheets.map Sheet.file) s := by
  have hname (name : String) : name ∈ sheets.map Sheet.name ↔
      ∃ file ∈ sheets.map Sheet.file, Bytes.display file.1 = name := by
    simp [Sheet.file, Bytes.display_ofText]
  constructor
  · intro h
    refine ⟨fun name => (h.names name).trans (hname name), ?_⟩
    intro file hf
    obtain ⟨sheet, hs, rfl⟩ := List.mem_map.mp hf
    obtain ⟨m, hm, hg⟩ := h.mappings sheet hs
    exact ⟨m, hm _, by rw [Sheet.file, Bytes.display_ofText, hg]⟩
  · intro h
    refine ⟨fun name => (h.names name).trans (hname name).symm, ?_⟩
    intro sheet hs
    obtain ⟨m, hm, hg⟩ := h.mappings _ (List.mem_map_of_mem hs)
    rw [Sheet.file, Bytes.display_ofText] at hg
    exact ⟨m, Mapping.parse_origin hm, hg⟩

variable (he : (regularFiles entries).Perm (sheets.map Sheet.file))
  (hn : (sheets.map Sheet.name).Nodup)
include he hn

theorem nodup_shown : ((regularFiles entries).map fun file => Bytes.display file.1).Nodup := by
  have hd : (sheets.map Sheet.file).map (fun file => Bytes.display file.1) =
      sheets.map Sheet.name := by
    rw [List.map_map]
    exact List.map_congr_left fun sheet _ => Bytes.display_ofText sheet.name
  rw [(he.map _).nodup_iff, hd]
  exact hn

theorem collects_of_loadDirectory (h : (loadDirectory directory (.ok entries)).outcome = .ok s) :
    Collects sheets s := by
  rw [loadDirectory_eq_ok_iff_gathers (nodup_shown he hn)] at h
  exact collects_iff_gathers.mpr (h.of_perm he)

theorem loadDirectory_of_collects (h : Collects sheets s) :
    (loadDirectory directory (.ok entries)).outcome = .ok s := by
  rw [loadDirectory_eq_ok_iff_gathers (nodup_shown he hn)]
  exact (collects_iff_gathers.mp h).of_perm he.symm

end

/-! ## Documents -/

section
variable {origin : String} {parts : List (String × Definition)}

/-- A sheet and the part of the document that its text makes up. -/
abbrev GivesPart (sheet : Sheet) (part : String × Definition) : Prop :=
  sheet.Gives (ArrayText (Record.Text (maxDepth - 3))) part

theorem documentText_assemble_iff (ht : ∀ sheet ∈ sheets, IsText sheet.text) :
    DocumentText (assemble sheets) parts ↔ List.Forall₂ GivesPart sheets parts := by
  have hp {k : Bytes} := @parts_assemble_iff _ _ k (loose_records (maxDepth - 3))
    (skippable_records _) _ ht parts
  constructor
  · rintro ⟨j, k, hj, h, hk⟩
    obtain ⟨-, rfl⟩ := hj.sign_eq (.refl _) rfl rfl
    exact (hp.mp h).2
  · intro h
    exact ⟨_, [], .refl _, hp.mpr ⟨rfl, h⟩, .refl []⟩

theorem counting?_of_mem (hn : (sheets.map Sheet.name).Nodup)
    (hp : List.Forall₂ GivesPart sheets parts) {name : String} {definition : Definition} :
    Document.counting? parts name = some definition ↔ (name, definition) ∈ parts := by
  have hk : (parts.map Prod.fst).Nodup := by
    rw [map_eq_of_forall₂ hp fun h => h.1]
    exact hn
  rw [Document.counting?, lookup_reverse hk, lookup_eq_some_iff_mem hk]

theorem collects_of_means (hn : (sheets.map Sheet.name).Nodup)
    (hp : List.Forall₂ GivesPart sheets parts) (h : Document.Means parts s) :
    Collects sheets s := by
  constructor
  · intro name
    rw [h.names, map_eq_of_forall₂ hp fun h => h.1]
  · intro sheet hs
    obtain ⟨⟨name, definition⟩, hm, hname, hf⟩ := exists_of_forall₂_left hp hs
    obtain rfl : name = sheet.name := hname
    obtain ⟨m, hg⟩ := (h.names _).mpr (List.mem_map_of_mem hm)
    obtain ⟨pairs, hd, hk⟩ := h.orders ((counting?_of_mem hn hp).mpr hm) hg
    have hpairs : Mapping.ofPairs pairs = m :=
      Mapping.ext fun key => by rw [Mapping.get?_ofPairs, hk]
    refine ⟨m, fun origin => Mapping.parse_eq_ok_iff.mpr ⟨pairs, ?_, hpairs⟩, hg⟩
    exact (definitionText_iff_records _).mpr ⟨definition, hf, hd⟩

theorem means_of_collects (hn : (sheets.map Sheet.name).Nodup)
    (hp : List.Forall₂ GivesPart sheets parts) (h : Collects sheets s) :
    Document.Means parts s := by
  constructor
  · intro name
    rw [h.names, map_eq_of_forall₂ hp fun h => h.1]
  · intro name definition m hc hg
    obtain ⟨sheet, hs, hname, hf⟩ := exists_of_forall₂_right hp ((counting?_of_mem hn hp).mp hc)
    obtain rfl : name = sheet.name := hname
    obtain ⟨m', hm, hg'⟩ := h.mappings sheet hs
    cases hg.symm.trans hg'
    obtain ⟨pairs, hd, rfl⟩ := Mapping.parse_eq_ok_iff.mp (hm "")
    obtain ⟨definition', hf', hd'⟩ := (definitionText_iff_records (maxDepth - 3)).mp hd
    cases hf.unique hf' (sole_records _) (skippable_records _)
    exact ⟨pairs, hd', Mapping.get?_ofPairs pairs⟩

theorem exists_parts (h : Collects sheets s) : ∃ parts, List.Forall₂ GivesPart sheets parts := by
  refine exists_forall₂ fun sheet hs => ?_
  obtain ⟨m, hm, -⟩ := h.mappings sheet hs
  obtain ⟨pairs, hd, -⟩ := Mapping.parse_eq_ok_iff.mp (hm "")
  obtain ⟨definition, hf, -⟩ := (definitionText_iff_records (maxDepth - 3)).mp hd
  exact ⟨(sheet.name, definition), rfl, hf⟩

theorem parse_assemble_iff (hn : (sheets.map Sheet.name).Nodup)
    (ht : ∀ sheet ∈ sheets, IsText sheet.text) :
    EnumerationSet.parse origin (assemble sheets) = .ok s ↔ Collects sheets s := by
  rw [EnumerationSet.parse_eq_ok_iff]
  constructor
  · rintro ⟨parts, hd, hm⟩
    exact collects_of_means hn ((documentText_assemble_iff ht).mp hd) hm
  · intro h
    obtain ⟨parts, hp⟩ := exists_parts h
    exact ⟨parts, (documentText_assemble_iff ht).mpr hp, means_of_collects hn hp h⟩

end

/-! ## All sources -/

theorem loadFile_of_parse {path : Bytes} {name : String} {text : Bytes} {m : Mapping}
    (h : ∀ origin, Mapping.parse origin text = .ok m) :
    (loadFile path name (.ok text)).outcome = .ok (EnumerationSet.empty.insert name m) := by
  rw [loadFile, fileMapping, h]
  rfl

theorem load_url {env : Environment Id} {address : String} {timeout : UInt64} {target : Url}
    (h : requestUrl address = .ok target) :
    (load env (.url address timeout)).run =
      loadBody address (exchangeBody target (env.fetch target)) := by
  rw [load, h]
  rfl

theorem loadBody_of_error {address : String} {target : Url} {status : Nat} {body : Bytes}
    (h : 400 ≤ status) (h' : status < 600) :
    ∃ reason, (loadBody address (exchangeBody target (.answered status body))).outcome =
      .error (.sourceUnavailable address reason) := by
  have hs : (isClientError status || isServerError status) = true := by
    simp only [isClientError, isServerError, Bool.or_eq_true, Bool.and_eq_true, decide_eq_true_eq]
    omega
  rw [exchangeBody, if_pos hs]
  exact ⟨_, rfl⟩

/-- Definitions under names of their own, kept in the files of a directory or as the
members of a document, give the same set or none, and under each name the set has what the
file gives when it is loaded alone. A document that is fetched gives the same again when
it comes with the status 200. With a status from 400 to 599, which tells of an error of
the request or of the server, the body is not looked at. -/
theorem sources_agree (sheets : List Sheet) (hn : (sheets.map Sheet.name).Nodup)
    (ht : ∀ sheet ∈ sheets,
      (∃ origin m, Mapping.parse origin sheet.text = .ok m) ∨ IsText sheet.text)
    (env : Environment Id) (directory : Bytes) (entries : List DirectoryEntry)
    (hl : env.list directory = .ok entries)
    (he : (regularFiles entries).Perm
      (sheets.map fun sheet => (Bytes.ofText sheet.name, .ok sheet.text))) :
    (∀ origin s, (load env (.directory directory)).run.outcome = .ok s ↔
      EnumerationSet.parse origin (assemble sheets) = .ok s) ∧
    (∀ s, (load env (.directory directory)).run.outcome = .ok s →
      (∀ name, (∃ m, s.get? name = some m) ↔ name ∈ sheets.map Sheet.name) ∧
      ∀ sheet ∈ sheets, ∃ m, s.get? sheet.name = some m ∧
        ∀ path, env.read path = .ok sheet.text →
          (load env (.file path sheet.name)).run.outcome =
            .ok (EnumerationSet.empty.insert sheet.name m)) ∧
    (∀ address timeout target, requestUrl address = .ok target →
      (env.fetch target = .answered 200 (assemble sheets) →
        ∀ s, (load env (.url address timeout)).run.outcome = .ok s ↔
          (load env (.directory directory)).run.outcome = .ok s) ∧
      (∀ status body, env.fetch target = .answered status body → 400 ≤ status → status < 600 →
        ∃ reason, (load env (.url address timeout)).run.outcome =
          .error (.sourceUnavailable address reason))) := by
  have ht : ∀ sheet ∈ sheets, IsText sheet.text := by
    intro sheet hs
    rcases ht sheet hs with ⟨origin, m, hm⟩ | ht
    · exact Mapping.isText_of_parse hm
    · exact ht
  have hd : (load env (.directory directory)).run = loadDirectory directory (.ok entries) :=
    congrArg (loadDirectory directory) hl
  have hc {s : EnumerationSet} :
      (load env (.directory directory)).run.outcome = .ok s ↔ Collects sheets s := by
    rw [hd]
    exact ⟨collects_of_loadDirectory he hn, loadDirectory_of_collects he hn⟩
  refine ⟨?_, ?_, ?_⟩
  · intro origin s
    rw [hc, parse_assemble_iff hn ht]
  · intro s hs
    have h := hc.mp hs
    refine ⟨h.names, fun sheet hsheet => ?_⟩
    obtain ⟨m, hm, hg⟩ := h.mappings sheet hsheet
    refine ⟨m, hg, fun path hr => ?_⟩
    have hf : (load env (.file path sheet.name)).run = loadFile path sheet.name (.ok sheet.text) :=
      congrArg (loadFile path sheet.name) hr
    rw [hf]
    exact loadFile_of_parse hm
  · intro address timeout target hu
    refine ⟨fun hx s => ?_, fun status body hx h h' => ?_⟩
    · rw [hc, load_url hu, hx]
      exact parse_assemble_iff hn ht
    · rw [load_url hu, hx]
      exact loadBody_of_error h h'

/-- Two files, listed the other way round and with a directory between them. -/
theorem sources_agree_twoFiles :
    let sheets := [Sheet.written "a" [0x5B, 0x5D], Sheet.written "b" [0x20, 0x5B, 0x5D]]
    let entries : List DirectoryEntry := [⟨[0x62], .regular (.ok [0x20, 0x5B, 0x5D])⟩,
      ⟨[0x63], .other⟩, ⟨[0x61], .regular (.ok [0x5B, 0x5D])⟩]
    let env : Environment Id :=
      ⟨fun _ => .error .notFound, fun _ => .ok entries, fun _ => .unreachable ""⟩
    (sheets.map Sheet.name).Nodup ∧
      ∀ origin s, (load env (.directory [0x64])).run.outcome = .ok s ↔
        EnumerationSet.parse origin (assemble sheets) = .ok s := by
  intro sheets entries env
  have hn : (sheets.map Sheet.name).Nodup := by decide
  have ht : ∀ sheet ∈ sheets,
      (∃ origin m, Mapping.parse origin sheet.text = .ok m) ∨ IsText sheet.text := by
    have hv : SkippedValue [0x5B, 0x5D] [] :=
      @SkippedValue.container .array _ _ (.close (.refl [Sign.closeBracket]))
    refine List.forall_mem_cons.mpr ⟨.inr ?_, List.forall_mem_cons.mpr ⟨.inr ?_, nofun⟩⟩
    · exact ⟨_, [], .refl _, hv, .refl []⟩
    · exact ⟨_, [], (Blanks.refl _).cons rfl, hv, .refl []⟩
  exact ⟨hn, (sources_agree sheets hn ht env [0x64] entries rfl (.swap _ _ [])).1⟩

/-- A status of 600 is beyond those that tell of an error, and what comes with it is taken
for the document: here it is one without members, which gives the empty set. -/
theorem status_600_tells_of_no_error :
    ¬ ∀ (env : Environment Id) (address : String) (timeout : UInt64) (target : Url)
        (status : Nat) (body : Bytes),
      requestUrl address = .ok target → env.fetch target = .answered status body →
        400 ≤ status →
          ∃ reason, (load env (.url address timeout)).run.outcome =
            .error (.sourceUnavailable address reason) := by
  intro h
  let env : Environment Id := ⟨fun _ => .error .notFound, fun _ => .error .notFound,
    fun _ => .answered 600 (Bytes.ofText "\x7b\x7d")⟩
  have hs : (requestUrl "http://remote/").toOption.isSome = true := by decide +kernel
  cases hu : requestUrl "http://remote/" with
  | error fault => rw [hu] at hs; cases hs
  | ok target =>
      obtain ⟨reason, hr⟩ := h env "http://remote/" 30 target 600 _ hu rfl (by decide)
      have ho : (load env (.url "http://remote/" 30)).run.outcome = .ok .empty := by
        rw [load_url hu]
        show EnumerationSet.parse "http://remote/" (Bytes.ofText "\x7b\x7d") = .ok .empty
        decide +kernel
      cases ho.symm.trans hr

end EnumOrdering
