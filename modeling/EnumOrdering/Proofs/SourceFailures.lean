import EnumOrdering.Source.Basic

/-!
# How loads fail

A load fails because the source cannot be had or because a definition is malformed. The
other two failures concern a request, and no load knows of one.
-/

namespace EnumOrdering

/-- What fails, if at all, for a reason that lies with the source. -/
def FailsBySource {α : Type} (outcome : Except Failure α) : Prop :=
  ∀ e, outcome = .error e → e.isRequestError = false

section
variable {α β : Type} {outcome : Except Failure α}

theorem failsBySource_ok (a : α) : FailsBySource (.ok a) := nofun

theorem failsBySource_error {e : Failure} (h : e.isRequestError = false) :
    FailsBySource (.error e : Except Failure α) := fun _ he => Except.error.inj he ▸ h

theorem FailsBySource.map {f : α → β} (h : FailsBySource outcome) :
    FailsBySource (outcome.map f) := by
  cases outcome with
  | error e => exact failsBySource_error (h e rfl)
  | ok a => exact failsBySource_ok _

end

namespace Source

open Files (FileError)

theorem failsBySource_mapping (origin : String) (definition : Definition) :
    FailsBySource (definition.mapping origin) := by
  rw [Definition.mapping]
  split
  · exact failsBySource_error rfl
  · exact failsBySource_ok _

theorem failsBySource_fileMapping (path : Bytes) (bytes : Except FileError Bytes) :
    FailsBySource (fileMapping path bytes) := by
  cases bytes with
  | error e => exact failsBySource_error rfl
  | ok bytes =>
      rw [fileMapping, Mapping.parse]
      split
      · exact failsBySource_error rfl
      · exact failsBySource_mapping _ _

theorem failsBySource_fileMappings (directory : Bytes) (entries : List DirectoryEntry) :
    FailsBySource (fileMappings directory entries) := by
  induction entries with
  | nil => exact failsBySource_ok _
  | cons entry entries ih =>
      rw [fileMappings]
      split
      · exact ih
      · split
        · next h => exact failsBySource_error (failsBySource_fileMapping _ _ _ h)
        · split
          · next h => exact failsBySource_error (ih _ h)
          · exact failsBySource_ok _

theorem failsBySource_mappings (origin : String) (definitions : List (String × Definition)) :
    FailsBySource (Document.mappings origin definitions) := by
  induction definitions with
  | nil => exact failsBySource_ok _
  | cons named definitions ih =>
      rw [Document.mappings]
      split
      · next h => exact failsBySource_error (failsBySource_mapping _ _ _ h)
      · split
        · next h => exact failsBySource_error (ih _ h)
        · exact failsBySource_ok _

theorem failsBySource_loadBody (address : String) (body : Except RequestFault Bytes) :
    FailsBySource (loadBody address body).outcome := by
  cases body with
  | error fault => exact failsBySource_error rfl
  | ok body =>
      rw [loadBody, EnumerationSet.parse]
      split
      · exact failsBySource_error rfl
      · exact (failsBySource_mappings _ _).map

theorem failsBySource_loadDirectory (directory : Bytes)
    (listing : Except FileError (List DirectoryEntry)) :
    FailsBySource (loadDirectory directory listing).outcome := by
  cases listing with
  | error e => exact failsBySource_error rfl
  | ok entries => exact (failsBySource_fileMappings directory entries).map

/-- No load of a source fails as a request does. -/
theorem failsBySource_load (env : Environment Id) (source : Source) :
    FailsBySource (source.load env).run.outcome := by
  cases source with
  | directory path => exact failsBySource_loadDirectory path (env.list path).run
  | file path name => exact (failsBySource_fileMapping path (env.read path).run).map
  | url address timeout =>
      rw [load]
      cases requestUrl address with
      | error fault => exact failsBySource_loadBody address (.error fault)
      | ok target =>
          exact failsBySource_loadBody address (exchangeBody target (env.fetch target).run)

end Source

end EnumOrdering
