import EnumOrdering.Files.Tree
import EnumOrdering.Proofs.DefinitionText
import EnumOrdering.Proofs.LastWins
import EnumOrdering.Proofs.Text.Utf8
import Mathlib.Data.List.Forall2

/-!
# What a directory gives

A directory gives the mappings of its regular files, one for each in the order of the
listing, and it gives none when one of them has none. The entries that are passed over
play no part, so everything later speaks of the regular files alone.

Files are read one after the other and put into the set one after the other, and neither
order matters where their names show as different texts: `Gathers` says which set the
files make up without an order, and there is only one such set. Which of several bad files
is reported does depend on the order, so of a failure it is only said that some file
of the directory is to blame for it.
-/

namespace EnumOrdering.Source

open Files (FileError FileTree joinPath)

/-! ## Lists item by item -/

section
variable {α β γ : Type} {R : α → β → Prop} {as : List α} {bs : List β}

theorem exists_forall₂ (h : ∀ a ∈ as, ∃ b, R a b) : ∃ bs, List.Forall₂ R as bs := by
  induction as with
  | nil => exact ⟨[], .nil⟩
  | cons a as ih =>
      obtain ⟨h, hs⟩ := List.forall_mem_cons.mp h
      obtain ⟨b, hb⟩ := h
      obtain ⟨bs, hbs⟩ := ih hs
      exact ⟨b :: bs, .cons hb hbs⟩

theorem map_eq_of_forall₂ {f : α → γ} {g : β → γ} (h : List.Forall₂ R as bs)
    (hR : ∀ {a b}, R a b → g b = f a) : bs.map g = as.map f := by
  induction h with
  | nil => rfl
  | cons hr h ih => rw [List.map_cons, List.map_cons, hR hr, ih]

theorem exists_of_forall₂_left (h : List.Forall₂ R as bs) {a : α} (ha : a ∈ as) :
    ∃ b ∈ bs, R a b := by
  induction h with
  | nil => cases ha
  | cons hr h ih =>
      cases ha with
      | head => exact ⟨_, List.mem_cons_self, hr⟩
      | tail _ ha =>
          obtain ⟨b, hb, hr⟩ := ih ha
          exact ⟨b, List.mem_cons_of_mem _ hb, hr⟩

theorem exists_of_forall₂_right (h : List.Forall₂ R as bs) {b : β} (hb : b ∈ bs) :
    ∃ a ∈ as, R a b :=
  exists_of_forall₂_left h.flip hb

variable {ε : Type} {f : α → Except ε β}

theorem mapM_eq_ok_iff :
    as.mapM f = .ok bs ↔ List.Forall₂ (fun a b => f a = .ok b) as bs := by
  induction as generalizing bs with
  | nil =>
      rw [List.mapM_nil, List.forall₂_nil_left_iff]
      exact ⟨fun h => (Except.ok.inj h).symm, fun h => h ▸ rfl⟩
  | cons a as ih =>
      rw [List.mapM_cons, List.forall₂_cons_left_iff]
      cases ha : f a with
      | error e =>
          constructor
          · intro h
            cases h
          · rintro ⟨b, bs, h, -, -⟩
            cases h
      | ok b =>
          simp only [bind, Except.bind, ← ih]
          cases as.mapM f with
          | error e => simp
          | ok bs' => simp [pure, Except.pure, eq_comm]

theorem exists_of_mapM_eq_error {e : ε} (h : as.mapM f = .error e) : ∃ a ∈ as, f a = .error e := by
  induction as with
  | nil => cases h
  | cons a as ih =>
      rw [List.mapM_cons] at h
      cases ha : f a with
      | error e' =>
          rw [ha] at h
          cases h
          exact ⟨a, List.mem_cons_self, ha⟩
      | ok b =>
          rw [ha] at h
          simp only [bind, Except.bind] at h
          cases hs : as.mapM f with
          | error e' =>
              rw [hs] at h
              cases h
              obtain ⟨a', ha', he⟩ := ih hs
              exact ⟨a', List.mem_cons_of_mem _ ha', he⟩
          | ok bs =>
              rw [hs] at h
              cases h

end

/-! ## Files that give mappings -/

/-- The regular files of a listing, with what reading them gives. -/
def regularFiles (entries : List DirectoryEntry) : List (Bytes × Except FileError Bytes) :=
  entries.filterMap fun entry =>
    match entry.content with
    | .regular bytes => some (entry.name, bytes)
    | .other => none

theorem mem_regularFiles {entries : List DirectoryEntry} {name : Bytes}
    {bytes : Except FileError Bytes} :
    (name, bytes) ∈ regularFiles entries ↔ ⟨name, .regular bytes⟩ ∈ entries := by
  rw [regularFiles, List.mem_filterMap]
  constructor
  · rintro ⟨⟨name', content⟩, he, hf⟩
    cases content with
    | other => cases hf
    | regular bytes' =>
        cases hf
        exact he
  · intro he
    exact ⟨_, he, rfl⟩

/-- A file of a directory has the mapping, and its name shows as the name given. -/
def HasMapping (directory : Bytes) (file : Bytes × Except FileError Bytes)
    (named : String × Mapping) : Prop :=
  named.1 = Bytes.display file.1 ∧ fileMapping (joinPath directory file.1) file.2 = .ok named.2

/-- The mapping of a file of a directory, under the text that its name shows as. -/
def namedMapping (directory : Bytes) (file : Bytes × Except FileError Bytes) :
    Except Failure (String × Mapping) :=
  (fileMapping (joinPath directory file.1) file.2).map fun m => (Bytes.display file.1, m)

section
variable {directory : Bytes} {file : Bytes × Except FileError Bytes}

theorem namedMapping_eq_ok_iff {named : String × Mapping} :
    namedMapping directory file = .ok named ↔ HasMapping directory file named := by
  obtain ⟨name, m⟩ := named
  rw [namedMapping, HasMapping]
  cases fileMapping (joinPath directory file.1) file.2 with
  | error e => simp [Except.map]
  | ok m' => simp [Except.map, eq_comm]

theorem namedMapping_eq_error_iff {e : Failure} :
    namedMapping directory file = .error e ↔
      fileMapping (joinPath directory file.1) file.2 = .error e := by
  rw [namedMapping]
  cases fileMapping (joinPath directory file.1) file.2 <;> simp [Except.map]

end

theorem fileMappings_eq_mapM (directory : Bytes) (entries : List DirectoryEntry) :
    fileMappings directory entries = (regularFiles entries).mapM (namedMapping directory) := by
  induction entries with
  | nil => rfl
  | cons entry entries ih =>
      rw [fileMappings, regularFiles, List.filterMap_cons]
      cases entry.content with
      | other => exact ih
      | regular bytes =>
          dsimp only
          rw [List.mapM_cons, namedMapping, ih]
          cases fileMapping (joinPath directory entry.name) bytes with
          | error e => rfl
          | ok m =>
              show _ = Except.bind ((regularFiles entries).mapM (namedMapping directory)) _
              cases (regularFiles entries).mapM (namedMapping directory) <;> rfl

variable {directory : Bytes} {entries : List DirectoryEntry}

theorem fileMappings_eq_ok_iff {ms : List (String × Mapping)} :
    fileMappings directory entries = .ok ms ↔
      List.Forall₂ (HasMapping directory) (regularFiles entries) ms := by
  rw [fileMappings_eq_mapM, mapM_eq_ok_iff]
  simp only [namedMapping_eq_ok_iff]

theorem loadDirectory_eq_ok_iff {s : EnumerationSet} :
    (loadDirectory directory (.ok entries)).outcome = .ok s ↔
      ∃ ms, List.Forall₂ (HasMapping directory) (regularFiles entries) ms ∧ .ofList ms = s := by
  simp only [← fileMappings_eq_ok_iff]
  rw [loadDirectory]
  cases fileMappings directory entries <;> simp [Except.map]

/-! ## Files that give no mapping -/

theorem fileMapping_eq_ok_iff {path : Bytes} {bytes : Except FileError Bytes} {m : Mapping} :
    fileMapping path bytes = .ok m ↔
      ∃ text, bytes = .ok text ∧ Mapping.parse (Bytes.display path) text = .ok m := by
  cases bytes <;> simp [fileMapping]

/-- What a file without a mapping fails with: that it cannot be read, or that what it
holds is no definition. -/
inductive FileFails (path : Bytes) : Except FileError Bytes → Failure → Prop
  | unread (e : FileError) :
      FileFails path (.error e) (.sourceUnavailable (Bytes.display path) e.message)
  | malformed {text : Bytes} {reason : String}
      (h : Mapping.parse (Bytes.display path) text =
        .error (.malformedDefinition (Bytes.display path) reason)) :
      FileFails path (.ok text) (.malformedDefinition (Bytes.display path) reason)

theorem fileFails_of_fileMapping {path : Bytes} {bytes : Except FileError Bytes} {e : Failure}
    (h : fileMapping path bytes = .error e) : FileFails path bytes e := by
  cases bytes with
  | error io =>
      cases h
      exact .unread io
  | ok text =>
      rw [fileMapping] at h
      rcases Mapping.parse_eq_ok_or_malformed (Bytes.display path) text with ⟨m, hm⟩ | ⟨reason, hr⟩
      · rw [hm] at h
        cases h
      · rw [hr] at h
        cases h
        exact .malformed hr

theorem fileMappings_eq_error {e : Failure} (h : fileMappings directory entries = .error e) :
    ∃ file ∈ regularFiles entries, FileFails (joinPath directory file.1) file.2 e := by
  rw [fileMappings_eq_mapM] at h
  obtain ⟨file, hf, he⟩ := exists_of_mapM_eq_error h
  exact ⟨file, hf, fileFails_of_fileMapping (namedMapping_eq_error_iff.mp he)⟩

theorem exists_loadDirectory_iff :
    (∃ s, (loadDirectory directory (.ok entries)).outcome = .ok s) ↔
      ∀ file ∈ regularFiles entries,
        ∃ m, fileMapping (joinPath directory file.1) file.2 = .ok m := by
  constructor
  · rintro ⟨s, hs⟩ file hf
    obtain ⟨ms, hms, -⟩ := loadDirectory_eq_ok_iff.mp hs
    obtain ⟨named, -, -, hm⟩ := exists_of_forall₂_left hms hf
    exact ⟨named.2, hm⟩
  · intro h
    have hn : ∀ file ∈ regularFiles entries, ∃ named, HasMapping directory file named := by
      intro file hf
      obtain ⟨m, hm⟩ := h file hf
      exact ⟨(_, m), rfl, hm⟩
    obtain ⟨ms, hms⟩ := exists_forall₂ hn
    exact ⟨.ofList ms, loadDirectory_eq_ok_iff.mpr ⟨ms, hms, rfl⟩⟩

/-- One regular file without a mapping is enough for a directory to give nothing. -/
theorem loadDirectory_eq_error {name : Bytes} {bytes : Except FileError Bytes}
    (hf : (name, bytes) ∈ regularFiles entries)
    (he : ∀ m, fileMapping (joinPath directory name) bytes ≠ .ok m) :
    ∃ e, (loadDirectory directory (.ok entries)).outcome = .error e := by
  cases ho : (loadDirectory directory (.ok entries)).outcome with
  | error e => exact ⟨e, rfl⟩
  | ok s =>
      obtain ⟨m, hm⟩ := exists_loadDirectory_iff.mp ⟨s, ho⟩ _ hf
      exact absurd hm (he m)

theorem fileFails_of_loadDirectory {e : Failure}
    (h : (loadDirectory directory (.ok entries)).outcome = .error e) :
    ∃ file ∈ regularFiles entries, FileFails (joinPath directory file.1) file.2 e := by
  rw [loadDirectory] at h
  cases hm : fileMappings directory entries with
  | ok ms =>
      rw [hm] at h
      cases h
  | error e' =>
      rw [hm] at h
      cases h
      exact fileMappings_eq_error hm

/-! ## The set that files make up -/

/-- The set has the names that the files show and no other, and under each of them the
mapping of its file. -/
structure Gathers (directory : Bytes) (files : List (Bytes × Except FileError Bytes))
    (s : EnumerationSet) : Prop where
  names : ∀ name, (∃ m, s.get? name = some m) ↔ ∃ file ∈ files, Bytes.display file.1 = name
  mappings : ∀ file ∈ files, ∃ m, fileMapping (joinPath directory file.1) file.2 = .ok m ∧
    s.get? (Bytes.display file.1) = some m

section
variable {files files' : List (Bytes × Except FileError Bytes)} {s s' : EnumerationSet}

theorem Gathers.unique (h : Gathers directory files s) (h' : Gathers directory files s') :
    s = s' := by
  refine EnumerationSet.ext fun name => Option.ext fun m => ?_
  have transfer {s s' : EnumerationSet} (h : Gathers directory files s)
      (h' : Gathers directory files s') (hm : s.get? name = some m) : s'.get? name = some m := by
    obtain ⟨file, hf, rfl⟩ := (h.names name).mp ⟨m, hm⟩
    obtain ⟨m₁, hp, hg⟩ := h.mappings file hf
    obtain ⟨m₂, hq, hg'⟩ := h'.mappings file hf
    cases hp.symm.trans hq
    rw [hg']
    exact hg.symm.trans hm
  exact ⟨transfer h h', transfer h' h⟩

theorem Gathers.of_perm (h : Gathers directory files s) (hp : files.Perm files') :
    Gathers directory files' s where
  names name := by
    rw [h.names]
    simp only [hp.mem_iff]
  mappings file hf := h.mappings file (hp.mem_iff.mpr hf)

/-- Where names show as different texts, what a directory gives is the set that its
regular files make up. -/
theorem loadDirectory_eq_ok_iff_gathers
    (hn : ((regularFiles entries).map fun file => Bytes.display file.1).Nodup) :
    (loadDirectory directory (.ok entries)).outcome = .ok s ↔
      Gathers directory (regularFiles entries) s := by
  have gathers {s : EnumerationSet}
      (h : (loadDirectory directory (.ok entries)).outcome = .ok s) :
      Gathers directory (regularFiles entries) s := by
    obtain ⟨ms, hs, rfl⟩ := loadDirectory_eq_ok_iff.mp h
    have hk : ms.map Prod.fst = (regularFiles entries).map fun file => Bytes.display file.1 :=
      map_eq_of_forall₂ hs fun h => h.1
    have hg (name : String) : (EnumerationSet.ofList ms).get? name = ms.lookup name := by
      rw [EnumerationSet.get?_ofList, lookup_reverse (hk ▸ hn)]
    constructor
    · intro name
      rw [hg, ← Option.isSome_iff_exists, isSome_lookup_iff, hk, List.mem_map]
    · intro file hf
      obtain ⟨⟨name, m⟩, hm, hname, hp⟩ := exists_of_forall₂_left hs hf
      obtain rfl : name = Bytes.display file.1 := hname
      exact ⟨m, hp, (hg _).trans ((lookup_eq_some_iff_mem (hk ▸ hn)).mpr hm)⟩
  refine ⟨gathers, fun h => ?_⟩
  have hf : ∀ file ∈ regularFiles entries, ∃ m,
      fileMapping (joinPath directory file.1) file.2 = .ok m := by
    intro file hf
    obtain ⟨m, hm, -⟩ := h.mappings file hf
    exact ⟨m, hm⟩
  obtain ⟨s', ho⟩ := exists_loadDirectory_iff.mpr hf
  rw [ho, (gathers ho).unique h]

end

/-- In a tree an entry counts under its own name where its path, links followed, leads to
a file. -/
theorem mem_regularFiles_list {tree : FileTree} {listing : List DirectoryEntry}
    (h : tree.list directory = .ok listing) {name : Bytes} {bytes : Except FileError Bytes} :
    (name, bytes) ∈ regularFiles listing ↔ name ∈ listing.map DirectoryEntry.name ∧
      ∃ text, bytes = .ok text ∧ tree.read (joinPath directory name) = .ok text := by
  have content : ∀ entry ∈ listing,
      entry.content = tree.content (joinPath directory entry.name) := by
    rw [FileTree.list] at h
    split at h
    · cases h
    · split at h
      · cases h
        intro entry he
        obtain ⟨p, -, rfl⟩ := List.mem_map.mp he
        rfl
      · cases h
      · cases h
  have hc (path : Bytes) : tree.content path = .regular bytes ↔
      ∃ text, bytes = .ok text ∧ tree.read path = .ok text := by
    rw [FileTree.content]
    cases tree.read path <;> simp [eq_comm]
  rw [mem_regularFiles, List.mem_map, ← hc]
  constructor
  · intro he
    exact ⟨⟨_, he, rfl⟩, (content _ he).symm⟩
  · rintro ⟨⟨entry, he, rfl⟩, hr⟩
    rw [← content _ he] at hr
    exact hr ▸ he

/-- Where the names of the regular files show as different texts, a directory gives a set
just in case each of these files can be read and holds a definition. The set has the names
of the files with the mapping of each, in whatever order the files are listed and whatever
else is; in a tree these are the entries whose paths lead to files, links followed. If the
directory gives no set, some regular file is to blame and named as the origin, unless the
directory itself cannot be listed. -/
theorem directories_load_all_or_nothing (directory : Bytes) (entries : List DirectoryEntry)
    (hn : ((regularFiles entries).map fun file => Bytes.display file.1).Nodup) :
    let outcome (entries : List DirectoryEntry) := (loadDirectory directory (.ok entries)).outcome
    let origin (name : Bytes) := Bytes.display (joinPath directory name)
    ((∃ s, outcome entries = .ok s) ↔ ∀ name bytes, (name, bytes) ∈ regularFiles entries →
      ∃ text m, bytes = .ok text ∧ Mapping.parse (origin name) text = .ok m) ∧
    (∀ s, outcome entries = .ok s →
      (∀ name, (∃ m, s.get? name = some m) ↔
        ∃ file ∈ regularFiles entries, Bytes.display file.1 = name) ∧
      ∀ name text, (name, .ok text) ∈ regularFiles entries →
        ∃ m, s.get? (Bytes.display name) = some m ∧ Mapping.parse (origin name) text = .ok m) ∧
    (∀ entries', (regularFiles entries').Perm (regularFiles entries) →
      ∀ s, outcome entries' = .ok s ↔ outcome entries = .ok s) ∧
    (∀ entries', regularFiles entries' = regularFiles entries →
      outcome entries' = outcome entries) ∧
    (∀ (tree : FileTree) listing, tree.list directory = .ok listing → ∀ name bytes,
      (name, bytes) ∈ regularFiles listing ↔ name ∈ listing.map DirectoryEntry.name ∧
        ∃ text, bytes = .ok text ∧ tree.read (joinPath directory name) = .ok text) ∧
    (∀ e, outcome entries = .error e →
      ∃ file ∈ regularFiles entries, FileFails (joinPath directory file.1) file.2 e) ∧
    ∀ e, (loadDirectory directory (.error e)).outcome =
      .error (.sourceUnavailable (Bytes.display directory) e.message) := by
  intro outcome origin
  refine ⟨?_, ?_, ?_, ?_, fun _ _ hl _ _ => mem_regularFiles_list hl,
    fun _ he => fileFails_of_loadDirectory he, fun _ => rfl⟩
  · refine exists_loadDirectory_iff.trans ⟨fun h name bytes hf => ?_, fun h file hf => ?_⟩
    · obtain ⟨m, hm⟩ := h _ hf
      obtain ⟨text, hb, hp⟩ := fileMapping_eq_ok_iff.mp hm
      exact ⟨text, m, hb, hp⟩
    · obtain ⟨text, m, hb, hp⟩ := h file.1 file.2 hf
      exact ⟨m, fileMapping_eq_ok_iff.mpr ⟨text, hb, hp⟩⟩
  · intro s hs
    have h := (loadDirectory_eq_ok_iff_gathers hn).mp hs
    refine ⟨h.names, fun name text hf => ?_⟩
    obtain ⟨m, hm, hg⟩ := h.mappings _ hf
    exact ⟨m, hg, hm⟩
  · intro entries' hp s
    have hn' := ((hp.map fun file => Bytes.display file.1).nodup_iff).mpr hn
    rw [loadDirectory_eq_ok_iff_gathers hn, loadDirectory_eq_ok_iff_gathers hn']
    exact ⟨fun h => h.of_perm hp, fun h => h.of_perm hp.symm⟩
  · intro entries' he
    show (loadDirectory directory (.ok entries')).outcome = _
    rw [loadDirectory, fileMappings_eq_mapM, he, ← fileMappings_eq_mapM]
    rfl

/-- A file that cannot be read beside one that is a definition, with a directory between
them. -/
theorem directories_load_all_or_nothing_unread :
    let entries : List DirectoryEntry := [⟨Bytes.ofText "b", .regular (.ok [0x5B, 0x5D])⟩,
      ⟨Bytes.ofText "c", .other⟩, ⟨Bytes.ofText "a", .regular (.error (.other "denied"))⟩]
    ((regularFiles entries).map fun file => Bytes.display file.1).Nodup ∧
      ¬ ∃ s, (loadDirectory [0x64] (.ok entries)).outcome = .ok s := by
  intro entries
  have hf : regularFiles entries = [(Bytes.ofText "b", .ok [0x5B, 0x5D]),
    (Bytes.ofText "a", .error (.other "denied"))] := rfl
  have hn : ((regularFiles entries).map fun file => Bytes.display file.1).Nodup := by
    simp only [hf, List.map_cons, List.map_nil, Bytes.display_ofText]
    decide
  refine ⟨hn, fun h => ?_⟩
  have hm := (directories_load_all_or_nothing [0x64] entries hn).1.mp h (Bytes.ofText "a")
    (.error (.other "denied")) (by simp [hf])
  obtain ⟨text, m, he, -⟩ := hm
  cases he

end EnumOrdering.Source
