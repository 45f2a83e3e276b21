import EnumOrdering.Proofs.Change
import EnumOrdering.Proofs.Directory
import EnumOrdering.Proofs.DocumentText
import EnumOrdering.Proofs.Json.Detached
import EnumOrdering.Source.Basic

/-!
# Texts that were cut off

No definition text goes on as another one, except by blanks, and a document text neither.
So what was cut off before its last byte that is not blank is a malformed definition,
whatever is left of it, and a load that comes upon it fails: nothing of it gets into the
store.
-/

namespace EnumOrdering

open Json

variable {p s : Bytes}

/-! ## Definitions and documents -/

theorem FieldText.detached {α : Type} {V : Grammar α} {name : String} {i k : Bytes} {m : Field α}
    (h : FieldText V name i m k)
    (hV : ∀ v ∈ m.value?, ∀ i k, V i v k → Detached (V · v ·) i k) :
    Detached (FieldText V name · m ·) i k := by
  cases h with
  | value h => exact (hV _ rfl _ _ h).map .value
  | order h => exact h.detached.map .order
  | other hv ho h => exact h.detached.map (.other hv ho)

theorem loose_fieldText {α : Type} {V : Grammar α} (hV : Loose V) (name : String) :
    Loose (FieldText V name) := fun _ _ _ h => h.detached fun v _ i k => hV i v k

theorem loose_recordText {α : Type} {V : Grammar α} (hV : Loose V) : Loose (RecordText V) := by
  intro i p k h
  cases h with
  | object h hv ho =>
      exact (h.detached (loose_memberText (loose_fieldText hV))).cons _ fun h => .object h hv ho
  | pair hl hv hl' ho hc =>
      exact (hl.detached.comp ((hV _ _ _ hv).comp (hl'.detached.comp
        (ho.detached.comp hc.detached_sign)))).cons _
          fun ⟨_, hl, _, hv, _, hl', _, ho, hc⟩ => .pair hl hv hl' ho hc

theorem loose_records (room : Nat) : Loose (ArrayText (Record.Text room)) :=
  loose_arrayText fun _ _ _ => loose_recordText (loose_valueText room) _ _ _

theorem Definition.decode_append {d d' : Definition} (hp : decode p = .ok d)
    (hps : decode (p ++ s) = .ok d') : d = d' ∧ ∀ b ∈ s, isBlank b = true := by
  have hr := Record.takes_read (maxDepth - 2)
  exact readWholeText_append (takes_readSequence hr) (loose_records _) (sole_arrayText hr) hp hps

theorem Document.decode_append {d d' : Document} (hp : decode p = .ok d)
    (hps : decode (p ++ s) = .ok d') : d = d' ∧ ∀ b ∈ s, isBlank b = true := by
  have hk := keyed_named (takes_readSequence (Record.takes_read (maxDepth - 3)))
    fun document name definition => put document (name, definition)
  exact readWholeText_append (Document.takes_read (maxDepth - 3))
    (loose_objectText (loose_namedText (loose_records _))) (sole_objectText hk) hp hps

namespace Mapping

variable {origin origin' : String} {m m' : Mapping}

theorem decode_of_parse (h : parse origin p = .ok m) :
    ∃ d, Definition.decode p = .ok d ∧ d.mapping origin = .ok m := by
  rw [parse] at h
  split at h
  · cases h
  · next d hd => exact ⟨d, hd, h⟩

theorem parse_append (hp : parse origin p = .ok m) (hps : parse origin' (p ++ s) = .ok m') :
    (∀ b ∈ s, isBlank b = true) ∧ m = m' := by
  obtain ⟨d, hd, hm⟩ := decode_of_parse hp
  obtain ⟨d', hd', hm'⟩ := decode_of_parse hps
  obtain ⟨rfl, hs⟩ := Definition.decode_append hd hd'
  obtain ⟨pairs, hs₁, rfl⟩ := Definition.mapping_eq_ok_iff.mp hm
  obtain ⟨pairs', hs₂, rfl⟩ := Definition.mapping_eq_ok_iff.mp hm'
  exact ⟨hs, congrArg ofPairs (hs₁.unique hs₂)⟩

/-- What is left of a definition text that was cut off is malformed. -/
theorem parse_cutOff (hps : parse origin' (p ++ s) = .ok m') (hs : ∃ b ∈ s, isBlank b = false)
    (origin : String) : ∃ reason, parse origin p = .error (.malformedDefinition origin reason) := by
  refine (parse_eq_ok_or_malformed origin p).resolve_left ?_
  rintro ⟨m, hp⟩
  obtain ⟨b, hb, hn⟩ := hs
  rw [(parse_append hp hps).1 b hb] at hn
  cases hn

end Mapping

namespace EnumerationSet

variable {origin origin' : String} {e e' : EnumerationSet}

theorem decode_of_parse (h : parse origin p = .ok e) :
    ∃ d, Document.decode p = .ok d ∧ d.enumerations origin = .ok e := by
  rw [parse] at h
  split at h
  · cases h
  · next d hd => exact ⟨d, hd, h⟩

theorem parse_append (hp : parse origin p = .ok e) (hps : parse origin' (p ++ s) = .ok e') :
    (∀ b ∈ s, isBlank b = true) ∧ e = e' := by
  obtain ⟨d, hd, he⟩ := decode_of_parse hp
  obtain ⟨d', hd', he'⟩ := decode_of_parse hps
  obtain ⟨rfl, hs⟩ := Document.decode_append hd hd'
  obtain ⟨parts, -, hf⟩ := Document.decode_eq_ok_iff.mp hd
  exact ⟨hs, (Document.means_of_enumerations hf he).unique (Document.means_of_enumerations hf he')⟩

/-- What is left of a document text that was cut off is malformed as a whole, under none of
its names. -/
theorem parse_cutOff (hps : parse origin' (p ++ s) = .ok e') (hs : ∃ b ∈ s, isBlank b = false)
    (origin : String) : ∃ reason, parse origin p = .error (.malformedDefinition origin reason) := by
  rw [parse]
  cases hd : Document.decode p with
  | error f => exact ⟨_, rfl⟩
  | ok d =>
      obtain ⟨d', hd', -⟩ := decode_of_parse hps
      obtain ⟨b, hb, hn⟩ := hs
      rw [(Document.decode_append hd hd').2 b hb] at hn
      cases hn

end EnumerationSet

/-! ## Loads that come upon them -/

namespace Source

/-- Loads that find the bytes where a definition should be: a file, or a directory that
has it among its regular files. -/
inductive ComesUpon (p : Bytes) : Load → Prop
  | file (path : Bytes) (name : String) : ComesUpon p (loadFile path name (.ok p))
  | directory (path : Bytes) {name : Bytes} {entries : List DirectoryEntry}
      (h : (name, .ok p) ∈ regularFiles entries) : ComesUpon p (loadDirectory path (.ok entries))

theorem ComesUpon.outcome {load : Load} (h : ComesUpon p load)
    (hp : ∀ origin, ∃ reason,
      Mapping.parse origin p = .error (.malformedDefinition origin reason)) :
    ∃ e, load.outcome = .error e := by
  cases h with
  | file path name =>
      obtain ⟨reason, hr⟩ := hp (Bytes.display path)
      exact ⟨_, by rw [loadFile, fileMapping, hr]; rfl⟩
  | directory path hf =>
      refine loadDirectory_eq_error hf fun m hm => ?_
      obtain ⟨reason, hr⟩ := hp (Bytes.display (Files.joinPath path _))
      rw [fileMapping, hr] at hm
      cases hm

theorem outcome_loadBody
    (hp : ∀ origin, ∃ reason,
      EnumerationSet.parse origin p = .error (.malformedDefinition origin reason))
    (address : String) : ∃ e, (loadBody address (.ok p)).outcome = .error e := by
  obtain ⟨reason, hr⟩ := hp address
  exact ⟨_, hr⟩

end Source

namespace Ranker

/-- Nothing that is asked of a ranker moves its snapshot, but for enumerations that are
handed to it. -/
def Spared (load : Load) : Prop :=
  ∀ (r : Ranker) (store : Store) (action : Action), (∀ e, action ≠ .replace e) →
    (r.perform store load action).store.current = store.current

theorem spared_of_error {load : Load} (h : ∃ e, load.outcome = .error e) : Spared load := by
  intro r store action ha
  obtain ⟨e, he⟩ := h
  have hl : load.change = .failed e := by rw [Load.change, he]
  -- What the action asks of the ranker, if anything, is refused or fails.
  have hc (asked : Option Request) :
      (store.apply (asked.elim .none (·.change load))).current = store.current := by
    cases asked with
    | none => rfl
    | some request =>
        rw [Option.elim_some, Request.change, hl]
        split <;> rfl
  rw [perform_store]
  cases action with
  | replace e => exact absurd rfl (ha e)
  | reload => exact congrArg (fun change => (store.apply change).current) hl
  | parse name token => exact hc _
  | request request => exact hc (some request)
  | call call => exact hc _
  | snapshot => rfl
  | report => rfl

end Ranker

open Source in
/-- A text that was accepted and is still accepted with more bytes behind it has only
gained blanks, and means what it meant. So what is left of an accepted text that lost a
byte other than a blank at its end is malformed, and with a load that finds it the
snapshot in use and its generation stay as they are. -/
theorem accepted_texts_do_not_go_on (p s : Bytes) :
    (∀ origin origin' m m', Mapping.parse origin p = .ok m →
      Mapping.parse origin' (p ++ s) = .ok m' → (∀ b ∈ s, isBlank b = true) ∧ m = m') ∧
    (∀ origin origin' e e', EnumerationSet.parse origin p = .ok e →
      EnumerationSet.parse origin' (p ++ s) = .ok e' → (∀ b ∈ s, isBlank b = true) ∧ e = e') ∧
    ((∃ b ∈ s, isBlank b = false) →
      (∀ origin' m, Mapping.parse origin' (p ++ s) = .ok m →
        (∀ origin, ∃ reason,
          Mapping.parse origin p = .error (.malformedDefinition origin reason)) ∧
        ∀ load, ComesUpon p load → Ranker.Spared load) ∧
      (∀ origin' e, EnumerationSet.parse origin' (p ++ s) = .ok e →
        (∀ origin, ∃ reason,
          EnumerationSet.parse origin p = .error (.malformedDefinition origin reason)) ∧
        ∀ address, Ranker.Spared (loadBody address (.ok p)))) := by
  refine ⟨?_, ?_, fun hs => ⟨?_, ?_⟩⟩
  · intro origin origin' m m' hp hps
    exact Mapping.parse_append hp hps
  · intro origin origin' e e' hp hps
    exact EnumerationSet.parse_append hp hps
  · intro origin' m hps
    have hp := Mapping.parse_cutOff hps hs
    exact ⟨hp, fun load hf => Ranker.spared_of_error (hf.outcome hp)⟩
  · intro origin' e hps
    have hp := EnumerationSet.parse_cutOff hps hs
    exact ⟨hp, fun address => Ranker.spared_of_error (outcome_loadBody hp address)⟩

/-- Half of an empty array, in the only file of a directory. -/
theorem accepted_texts_do_not_go_on_halfArray :
    let directory := Source.loadDirectory [0x64] (.ok [⟨[0x66], .regular (.ok [0x5B])⟩])
    Mapping.parse "f" ([0x5B] ++ [0x5D]) = .ok .empty ∧
      (∀ origin, ∃ reason,
        Mapping.parse origin [0x5B] = .error (.malformedDefinition origin reason)) ∧
      Ranker.Spared directory := by
  have hp : Mapping.parse "f" ([0x5B] ++ [0x5D]) = .ok .empty :=
    Mapping.parse_eq_ok_iff.mpr
      ⟨[], ⟨_, [], .refl _, .mk (.close (.refl [Sign.closeBracket])), .refl []⟩, rfl⟩
  obtain ⟨hc, hs⟩ := ((accepted_texts_do_not_go_on [0x5B] [0x5D]).2.2
    ⟨0x5D, by decide, by decide⟩).1 "f" .empty hp
  have hf : ([0x66], .ok [0x5B]) ∈ Source.regularFiles [⟨[0x66], .regular (.ok [0x5B])⟩] :=
    List.mem_cons_self
  exact ⟨hp, hc, hs _ (.directory [0x64] hf)⟩

end EnumOrdering
