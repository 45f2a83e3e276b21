import EnumOrdering.Proofs.Directory
import EnumOrdering.Proofs.Keys

/-!
# Files whose names show alike

An enumeration has the text for its name that the name of its file shows as, and names that
are ill-formed can show as one text. Of the files that do, a directory keeps the last that
is listed and gives the others up without a word. So a directory keeps all of its files
just in case their names show as different texts, which names that are texts always do;
and what it gives stays the same in every order of the listing just in case the files
that show alike have the same mapping.
-/

namespace EnumOrdering.Source

open Files (FileError joinPath)

variable {directory : Bytes} {entries entries' : List DirectoryEntry} {s : EnumerationSet}

/-! ## The last file that shows as a name -/

/-- The file that stands last among those that show as the name. -/
def lastShown? (files : List (Bytes × Except FileError Bytes)) (name : String) :
    Option (Bytes × Except FileError Bytes) :=
  files.reverse.find? fun file => Bytes.display file.1 = name

theorem lastShown?_append (files : List (Bytes × Except FileError Bytes))
    (file : Bytes × Except FileError Bytes) :
    lastShown? (files ++ [file]) (Bytes.display file.1) = some file := by
  simp [lastShown?]

theorem isSome_lastShown?_iff {files : List (Bytes × Except FileError Bytes)} {name : String} :
    (lastShown? files name).isSome ↔ ∃ file ∈ files, Bytes.display file.1 = name := by
  simp [lastShown?]

theorem of_lastShown? {files : List (Bytes × Except FileError Bytes)} {name : String}
    {file : Bytes × Except FileError Bytes} (h : lastShown? files name = some file) :
    file ∈ files ∧ Bytes.display file.1 = name := by
  refine ⟨List.mem_reverse.mp (List.mem_of_find?_eq_some h), ?_⟩
  simpa using List.find?_some h

theorem HasMapping.unique {file : Bytes × Except FileError Bytes} {named named' : String × Mapping}
    (h : HasMapping directory file named) (h' : HasMapping directory file named') :
    named = named' :=
  Except.ok.inj ((namedMapping_eq_ok_iff.mpr h).symm.trans (namedMapping_eq_ok_iff.mpr h'))

/-- Under a name a directory gives what the last file says that shows as the name. -/
theorem get?_eq_some_iff (h : (loadDirectory directory (.ok entries)).outcome = .ok s)
    {name : String} {m : Mapping} :
    s.get? name = some m ↔ ∃ file, lastShown? (regularFiles entries) name = some file ∧
      fileMapping (joinPath directory file.1) file.2 = .ok m := by
  obtain ⟨ms, hs, rfl⟩ := loadDirectory_eq_ok_iff.mp h
  have hn : ∀ file named, HasMapping directory file named → ∀ name,
      decide (Bytes.display file.1 = name) = true ↔ named.1 = name := by
    intro file named h name
    rw [decide_eq_true_iff, h.1]
  rw [EnumerationSet.get?_ofList, lookup_eq_some_iff_find? hn (fun _ _ _ => HasMapping.unique)
    (List.forall₂_reverse_iff.mpr hs)]
  constructor
  · rintro ⟨file, hf, -, hm⟩
    exact ⟨file, hf, hm⟩
  · rintro ⟨file, hf, hm⟩
    exact ⟨file, hf, (of_lastShown? hf).2.symm, hm⟩

theorem mem_nameSet_iff (h : (loadDirectory directory (.ok entries)).outcome = .ok s)
    {name : String} :
    name ∈ s.nameSet ↔ ∃ file ∈ regularFiles entries, Bytes.display file.1 = name := by
  rw [EnumerationSet.mem_nameSet]
  simp only [get?_eq_some_iff h]
  constructor
  · rintro ⟨m, file, hf, -⟩
    exact ⟨file, of_lastShown? hf⟩
  · intro hf
    obtain ⟨file, hf⟩ := Option.isSome_iff_exists.mp (isSome_lastShown?_iff.mpr hf)
    obtain ⟨m, hm⟩ := exists_loadDirectory_iff.mp ⟨s, h⟩ _ (of_lastShown? hf).1
    exact ⟨m, file, hf, hm⟩

/-! ## How many files are kept -/

/-- The texts that the names of files show as. -/
def shownNames (files : List (Bytes × Except FileError Bytes)) : List String :=
  files.map fun file => Bytes.display file.1

theorem size_eq_card (h : (loadDirectory directory (.ok entries)).outcome = .ok s) :
    s.size = (shownNames (regularFiles entries)).toFinset.card := by
  rw [← EnumerationSet.card_nameSet]
  congr 1
  ext name
  rw [mem_nameSet_iff h, List.mem_toFinset, shownNames, List.mem_map]

theorem size_eq_length_iff (h : (loadDirectory directory (.ok entries)).outcome = .ok s) :
    s.size = (regularFiles entries).length ↔ (shownNames (regularFiles entries)).Nodup := by
  have hl : (shownNames (regularFiles entries)).length = (regularFiles entries).length :=
    List.length_map _
  rw [size_eq_card h, ← hl]
  constructor
  · intro hc
    exact Multiset.coe_nodup.mp (Multiset.toFinset_card_eq_card_iff_nodup.mp hc)
  · exact List.toFinset_card_of_nodup

theorem nodup_regularFiles (h : (entries.map DirectoryEntry.name).Nodup) :
    ((regularFiles entries).map Prod.fst).Nodup := by
  refine h.sublist ?_
  induction entries with
  | nil => exact .slnil
  | cons entry entries ih =>
      have ih := ih (List.nodup_cons.mp h).2
      rw [regularFiles, List.filterMap_cons]
      cases entry.content with
      | other => exact ih.cons _
      | regular bytes => exact ih.cons_cons _

theorem nodup_shownNames {files : List (Bytes × Except FileError Bytes)}
    (h : (files.map Prod.fst).Nodup) (ht : ∀ file ∈ files, ∃ text, file.1 = Bytes.ofText text) :
    (shownNames files).Nodup := by
  refine List.pairwise_map.mpr ((List.pairwise_map.mp h).imp_of_mem ?_)
  intro f g hf hg hn hd
  obtain ⟨s, hs⟩ := ht f hf
  obtain ⟨t, ht⟩ := ht g hg
  rw [hs, ht, Bytes.display_ofText, Bytes.display_ofText] at hd
  rw [hs, ht, hd] at hn
  exact hn rfl

/-! ## Whether the order of the listing matters -/

/-- Files that show alike have the same mapping. -/
def Agree (directory : Bytes) (files : List (Bytes × Except FileError Bytes)) : Prop :=
  ∀ f ∈ files, ∀ g ∈ files, Bytes.display f.1 = Bytes.display g.1 → ∀ m,
    fileMapping (joinPath directory f.1) f.2 = .ok m →
    fileMapping (joinPath directory g.1) g.2 = .ok m

theorem agree_of_nodup {files : List (Bytes × Except FileError Bytes)}
    (h : (shownNames files).Nodup) : Agree directory files := by
  intro f hf g hg hd m hm
  cases List.inj_on_of_nodup_map h hf hg hd
  exact hm

theorem Agree.get?_eq_some_iff (ha : Agree directory (regularFiles entries))
    (h : (loadDirectory directory (.ok entries)).outcome = .ok s) {name : String} {m : Mapping} :
    s.get? name = some m ↔ ∃ file ∈ regularFiles entries, Bytes.display file.1 = name ∧
      fileMapping (joinPath directory file.1) file.2 = .ok m := by
  rw [Source.get?_eq_some_iff h]
  constructor
  · rintro ⟨file, hf, hm⟩
    obtain ⟨hf, hd⟩ := of_lastShown? hf
    exact ⟨file, hf, hd, hm⟩
  · rintro ⟨file, hf, hd, hm⟩
    obtain ⟨last, hl⟩ := Option.isSome_iff_exists.mp (isSome_lastShown?_iff.mpr ⟨file, hf, hd⟩)
    obtain ⟨hl', hd'⟩ := of_lastShown? hl
    exact ⟨last, hl, ha file hf last hl' (hd.trans hd'.symm) m hm⟩

theorem Agree.outcome_of_perm (ha : Agree directory (regularFiles entries))
    (h : (loadDirectory directory (.ok entries)).outcome = .ok s) (hp : entries'.Perm entries) :
    (loadDirectory directory (.ok entries')).outcome = .ok s := by
  have hm (file : Bytes × Except FileError Bytes) :
      file ∈ regularFiles entries' ↔ file ∈ regularFiles entries :=
    (hp.filterMap _).mem_iff
  have ha' : Agree directory (regularFiles entries') := by
    intro f hf g hg
    exact ha f ((hm f).mp hf) g ((hm g).mp hg)
  obtain ⟨s', h'⟩ := exists_loadDirectory_iff.mpr fun file hf =>
    exists_loadDirectory_iff.mp ⟨s, h⟩ file ((hm file).mp hf)
  have hs : s' = s := by
    refine EnumerationSet.ext fun name => Option.ext fun m => ?_
    rw [ha.get?_eq_some_iff h, ha'.get?_eq_some_iff h']
    simp only [hm]
  rw [h', hs]

/-- Every file can be listed last, and then its mapping is what its name gives. -/
theorem get?_of_orders (h : ∀ entries', entries'.Perm entries →
      (loadDirectory directory (.ok entries')).outcome = .ok s)
    {file : Bytes × Except FileError Bytes} (hf : file ∈ regularFiles entries) {m : Mapping}
    (hm : fileMapping (joinPath directory file.1) file.2 = .ok m) :
    s.get? (Bytes.display file.1) = some m := by
  obtain ⟨before, after, he⟩ := List.append_of_mem (mem_regularFiles.mp hf)
  let entry : DirectoryEntry := ⟨file.1, .regular file.2⟩
  have hp : (before ++ after ++ [entry]).Perm entries := by
    rw [he, List.append_assoc]
    exact (List.perm_append_singleton entry after).append_left before
  have hr : regularFiles (before ++ after ++ [entry]) =
      regularFiles (before ++ after) ++ [file] := by
    rw [regularFiles, List.filterMap_append]
    rfl
  rw [get?_eq_some_iff (h _ hp), hr]
  exact ⟨file, lastShown?_append _ _, hm⟩

theorem outcome_of_orders_iff (h : (loadDirectory directory (.ok entries)).outcome = .ok s) :
    (∀ entries', entries'.Perm entries →
        (loadDirectory directory (.ok entries')).outcome = .ok s) ↔
      Agree directory (regularFiles entries) := by
  constructor
  · intro ho f hf g hg hd m hm
    obtain ⟨m', hm'⟩ := exists_loadDirectory_iff.mp ⟨s, h⟩ g hg
    have hf := get?_of_orders ho hf hm
    rw [hd, get?_of_orders ho hg hm'] at hf
    rw [hm', Option.some.inj hf]
  · intro ha entries' hp
    exact ha.outcome_of_perm h hp

/-! ## Names that are no texts -/

theorem display_lone {b : UInt8} (h : 0x80 ≤ b.toNat) : Bytes.display [b] = "\uFFFD" := by
  have hb : ¬ b < 0x80 := fun hlt => Nat.not_lt.mpr h (UInt8.lt_iff_toNat_lt.mp hlt)
  have hh : Utf8.head b [] = .broken [] := by
    rw [Utf8.head.eq_def, if_neg hb]
    dsimp only
    split
    · rfl
    · split
      · rfl
      · split <;> rfl
  rw [Bytes.display, Utf8.decodeLossy_cons_broken hh, Utf8.decodeLossy]
  rfl

theorem outcome_of_two (directory name name' : Bytes) {text text' : Bytes}
    {pairs pairs' : List (String × Int64)} (h : DefinitionText text pairs)
    (h' : DefinitionText text' pairs') :
    (loadDirectory directory
        (.ok [⟨name, .regular (.ok text)⟩, ⟨name', .regular (.ok text')⟩])).outcome =
      .ok (.ofList [(Bytes.display name, .ofPairs pairs),
        (Bytes.display name', .ofPairs pairs')]) :=
  loadDirectory_eq_ok_iff.mpr ⟨_, .cons ⟨rfl, Mapping.parse_eq_ok_iff.mpr ⟨_, h, rfl⟩⟩
    (.cons ⟨rfl, Mapping.parse_eq_ok_iff.mpr ⟨_, h', rfl⟩⟩ .nil), rfl⟩

theorem definitionText_empty : DefinitionText (Bytes.ofText "[]") [] :=
  ⟨_, [], .refl _, .mk (.close (.refl [Json.Sign.closeBracket])), .refl []⟩

/-- A directory of distinct names that gives a set gives as many enumerations as its files
have names that show apart, and under each the mapping of the last file that shows as it.
So it keeps every file just in case the names show apart, and gives the same in every
order of the listing just in case files that show alike agree; where all the names are
texts, both are so. -/
theorem files_are_kept_where_names_show_apart (directory : Bytes) (entries : List DirectoryEntry)
    (hn : (entries.map DirectoryEntry.name).Nodup) (s : EnumerationSet)
    (hs : (loadDirectory directory (.ok entries)).outcome = .ok s) :
    let files := regularFiles entries
    let loadsAlike := ∀ entries', entries'.Perm entries →
      (loadDirectory directory (.ok entries')).outcome = .ok s
    s.size = (shownNames files).toFinset.card ∧
    (∀ name m, s.get? name = some m ↔ ∃ file, lastShown? files name = some file ∧
      fileMapping (joinPath directory file.1) file.2 = .ok m) ∧
    (s.size = files.length ↔ (shownNames files).Nodup) ∧
    (loadsAlike ↔ Agree directory files) ∧
    ((∀ file ∈ files, ∃ text, file.1 = Bytes.ofText text) →
      s.size = files.length ∧ loadsAlike) := by
  refine ⟨size_eq_card hs, fun _ _ => get?_eq_some_iff hs, size_eq_length_iff hs,
    outcome_of_orders_iff hs, fun ht => ?_⟩
  have hn := nodup_shownNames (nodup_regularFiles hn) ht
  exact ⟨(size_eq_length_iff hs).mpr hn, (outcome_of_orders_iff hs).mpr (agree_of_nodup hn)⟩

/-- One ill-formed name shows apart from a text. -/
theorem files_are_kept_where_names_show_apart_illFormed :
    let entries : List DirectoryEntry := [⟨Bytes.ofText "a", .regular (.ok (Bytes.ofText "[]"))⟩,
      ⟨[0xFF], .regular (.ok (Bytes.ofText "[]"))⟩]
    ∃ s, (entries.map DirectoryEntry.name).Nodup ∧
      (loadDirectory [0x64] (.ok entries)).outcome = .ok s ∧ s.size = 2 ∧
      ∀ entries', entries'.Perm entries →
        (loadDirectory [0x64] (.ok entries')).outcome = .ok s := by
  intro entries
  have hn : (entries.map DirectoryEntry.name).Nodup := by decide
  have hs := outcome_of_two [0x64] (Bytes.ofText "a") [0xFF]
    definitionText_empty definitionText_empty
  have hd : (shownNames (regularFiles entries)).Nodup := by
    show [Bytes.display (Bytes.ofText "a"), Bytes.display [0xFF]].Nodup
    rw [Bytes.display_ofText, display_lone (by decide)]
    decide
  obtain ⟨-, -, hsize, horders, -⟩ :=
    files_are_kept_where_names_show_apart [0x64] entries hn _ hs
  exact ⟨_, hn, hs, hsize.mpr hd, horders.mpr (agree_of_nodup hd)⟩

/-- Two ill-formed names show as one text: one of the files is lost without a word, and the
order of the listing says which. -/
theorem files_that_show_alike_are_lost :
    let entries (text : Bytes) : List DirectoryEntry :=
      [⟨[0xFF], .regular (.ok (Bytes.ofText "[]"))⟩, ⟨[0xFE], .regular (.ok text)⟩]
    let outcome (entries : List DirectoryEntry) := (loadDirectory [0x64] (.ok entries)).outcome
    (∀ text, ((entries text).map DirectoryEntry.name).Nodup ∧
      (regularFiles (entries text)).length = 2) ∧
    (∃ s, outcome (entries (Bytes.ofText "[]")) = .ok s ∧ s.size ≠ 2) ∧
    ∃ s s', outcome (entries (Bytes.ofText "[[true,1]]")) = .ok s ∧
      outcome (entries (Bytes.ofText "[[true,1]]")).reverse = .ok s' ∧ s ≠ s' := by
  intro entries outcome
  have hone : DefinitionText (Bytes.ofText "[[true,1]]") [("true", 1)] :=
    ⟨_, [], .refl _, .mk (.part (.first (.refl _)) (.pair (.first (.refl _)) .true
      (.next (.refl _) (.refl _)) (.plain (.digits rfl (by decide) .nil) rfl) (.refl _))
      (.close (.refl _))), .refl []⟩
  have hff : Bytes.display [0xFF] = "\uFFFD" := display_lone (by decide)
  have hfe : Bytes.display [0xFE] = "\uFFFD" := display_lone (by decide)
  refine ⟨fun text => ⟨?_, rfl⟩, ?_, ?_⟩
  · show ([[0xFF], [0xFE]] : List Bytes).Nodup
    decide
  · have hs := outcome_of_two [0x64] [0xFF] [0xFE] definitionText_empty definitionText_empty
    refine ⟨_, hs, ?_⟩
    rw [size_eq_card hs]
    show [Bytes.display [0xFF], Bytes.display [0xFE]].toFinset.card ≠ 2
    rw [hff, hfe]
    decide
  · refine ⟨_, _, outcome_of_two _ _ _ definitionText_empty hone,
      outcome_of_two _ _ _ hone definitionText_empty, fun h => ?_⟩
    have hm := congrArg (EnumerationSet.get? · "\uFFFD") h
    simp only [hff, hfe, EnumerationSet.get?_ofList] at hm
    have hm : Mapping.ofPairs [("true", 1)] = Mapping.ofPairs [] := Option.some.inj hm
    have hg := congrArg (Mapping.get? · "true") hm
    simp only [Mapping.get?_ofPairs] at hg
    cases hg

end EnumOrdering.Source
