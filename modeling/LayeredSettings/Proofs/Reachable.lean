/-
LayeredSettings/Proofs/Reachable.lean

The layer data of the documents that a program can get at.

Documents are read or resolved, and from there on assigned to, edited under the
lock of a handle, replaced and reloaded (`Settings.Reachable`).  Each of these
steps keeps the shape of the schema, so every reachable document fits
(`Settings.Reachable.fits`).

Main result: `Settings.layerData_round_trip`.  The layer data of such a document
is read as the document, has all mandatory options, and describes the document
with the defaults below it.  Texts of URLs are assumed to be read back.
-/
import LayeredSettings.Handle
import LayeredSettings.Proofs.Defaults

namespace LayeredSettings

/-! ### Options that are always set -/

namespace Schema

/-- Whether a path leads to an option that is always set, through sections that are always
there. -/
def alwaysSet : Schema → Path → Bool
  | .option _ presence _, [] => presence = .required
  | .group _ optional members, key :: rest =>
      !optional &&
        match members.find? fun m => m.1.key == key with
        | some (_, s) => alwaysSet s rest
        | none => false
  | _, _ => false

/-- What is set of a document holds every option that is always set. -/
theorem Sound.find?_present_of_alwaysSet {s : Schema} (hs : s.Sound) {d : Value}
    (hd : s.Fits d) {p : Path} (hp : s.alwaysSet p = true) :
    d ≠ .null ∧ ∃ v, d.present.find? p = some v := by
  induction p generalizing s d with
  | nil =>
    cases hd with
    | option h =>
      obtain ⟨w, hw⟩ := h
      -- an option that has to be set is not null, so it is shown
      refine ⟨?_, _, Value.find?_nil _⟩
      rintro rfl
      exact not_required_of_readOption_null hw (by simpa [alwaysSet] using hp)
    | unset => cases hp
    | group => cases hp
  | cons key rest ih =>
    cases hd with
    | option => cases hp
    | unset => cases hp
    | group hkeys hmembers =>
      rename_i title optional members entries
      refine ⟨nofun, ?_⟩
      obtain ⟨hdistinct, hsound⟩ := sound_group_iff.1 hs
      rcases hm : members.find? fun m => m.1.key == key with - | ⟨name, below⟩
      · simp [alwaysSet, hm] at hp
      · obtain rfl : name.key = key := by simpa using List.find?_some hm
        have hmem : (name, below) ∈ members := List.mem_of_find?_eq_some hm
        have hbelow : below.alwaysSet rest = true := by
          simp only [alwaysSet, hm, Bool.and_eq_true] at hp
          exact hp.2
        obtain ⟨v, hv⟩ := Table.exists_get?_of_mem_keys (hkeys ▸ key_mem_memberKeys hmem)
        obtain ⟨hset, w, hw⟩ := ih (hsound _ hmem) (hmembers _ hmem v hv) hbelow
        -- the member below is not null, so its entry is one of those that are shown
        have hget := Table.get?_present_of_ne_null (hkeys ▸ hdistinct.1) hv hset
        exact ⟨w, by rw [Value.present_table]; simpa [Value.find?, hget] using hw⟩

end Schema

/-! ### Documents of a handle -/

namespace Handle

variable {α : Type}

/-- What holds of the document, and of what its use leaves in its place, holds afterwards. -/
theorem document_holding {motive : Document → Prop} (h : Handle) (mode : Lock.Mode)
    (use : Document → Document × Except Stop α) (hstays : motive h.document)
    (hused : motive (use h.document).1) : motive (h.holding mode use).1.document := by
  simp only [holding]
  split
  · exact hused
  · exact hstays

theorem document_write (h : Handle) (edits : List (Path × Value)) (giveUp : Option String) :
    (h.write edits giveUp).1.document = h.document ∨
      edit edits h.document = .ok (h.write edits giveUp).1.document := by
  refine document_holding (motive := fun d => d = h.document ∨ edit edits h.document = .ok d)
    h .write _ (.inl rfl) ?_
  rcases edit edits h.document with stop | draft
  · exact .inl rfl
  · rcases giveUp with - | message
    · exact .inr rfl
    · exact .inl rfl

theorem document_replace (h : Handle) (d : Document) :
    (h.replace d).1.document = h.document ∨ (h.replace d).1.document = d := by
  have hholding := document_holding (motive := fun e => e = h.document ∨ e = d) h .write
    (fun _ => (d, (.ok () : Except Stop Unit))) (.inl rfl) (.inr rfl)
  rw [replace]
  split
  · rename_i hx
    rwa [hx] at hholding
  · rename_i hx
    rwa [hx] at hholding

theorem document_reload (h : Handle) (files : Files) (source : Source)
    (environment : Environment) :
    (h.reload files source environment).1.document = h.document ∨
      ∃ r, (resolve files source environment).outcome = .ok r ∧
        (h.reload files source environment).1.document = r.document := by
  rw [reload]
  rcases resolve files source environment with ⟨events, f | r⟩
  · exact .inl rfl
  · rcases document_replace h r.document with hd | hd
    · exact .inl hd
    · exact .inr ⟨r, rfl, hd⟩

end Handle

/-! ### Reachable documents -/

namespace Settings

/-- A document that a program can get at: one that was read or resolved, or what assignments and
the operations of a handle have made of such documents. -/
inductive Reachable : Document → Prop
  | read {v d} (h : Settings.read v = .ok d) : Reachable d
  | resolve {files source environment r}
      (h : (resolve files source environment).outcome = .ok r) : Reachable r.document
  | assign {d path v e} (hd : Reachable d) (h : schema.assign d path v = .ok e) : Reachable e
  | write {h : Handle} (hh : Reachable h.document) (edits : List (Path × Value))
      (giveUp : Option String) : Reachable (h.write edits giveUp).1.document
  | replace {h : Handle} {d} (hh : Reachable h.document) (hd : Reachable d) :
      Reachable (h.replace d).1.document
  | reload {h : Handle} (hh : Reachable h.document) (files : Files) (source : Source)
      (environment : Environment) : Reachable (h.reload files source environment).1.document

variable {d e : Document}

theorem fits_of_edit {edits : List (Path × Value)} (hd : schema.Fits d)
    (h : Handle.edit edits d = .ok e) : schema.Fits e := by
  induction edits generalizing d with
  | nil =>
    obtain rfl := Except.ok.inj h
    exact hd
  | cons edit edits ih =>
    rcases edit with ⟨path, v⟩
    rw [Handle.edit] at h
    split at h
    · -- each edit that is accepted leads to a draft that fits
      rename_i draft hdraft
      exact ih (schema_sound.fits_of_assign hd hdraft) h
    · cases h

/-- Every reachable document has the shape of the schema. -/
theorem Reachable.fits (hd : Reachable d) : schema.Fits d := by
  -- only reading, assigning and editing make documents; all other ways put one of these in place
  induction hd with
  | read h => exact schema_sound.fits_of_read h
  | resolve h => exact schema_sound.fits_of_read (resolve_eq_ok_iff.1 h).2.2.1
  | assign hd h ih => exact schema_sound.fits_of_assign ih h
  | @write h hh edits giveUp ih =>
    rcases Handle.document_write h edits giveUp with hd | hd
    · rwa [hd]
    · exact fits_of_edit ih hd
  | @replace h d hh hd ih ihd =>
    rcases Handle.document_replace h d with hd | hd
    · rwa [hd]
    · rwa [hd]
  | @reload h hh files source environment ih =>
    rcases Handle.document_reload h files source environment with hd | ⟨r, hr, hd⟩
    · rwa [hd]
    · rw [hd]
      exact schema_sound.fits_of_read (resolve_eq_ok_iff.1 hr).2.2.1

/-! ### Layer data -/

/-- The paths of the options that hold URLs. -/
def urlPaths : List Path := [["tracker", "api_url"], ["tracker", "url"], ["net", "base_url"]]

/-- Each URL of a document is the text of a URL that reading the text gives back. -/
def UrlsReadBack (d : Document) : Prop :=
  ∀ p ∈ urlPaths, ∀ t ∈ textAt? (.table (layerData d)) p, Url.ReadsBack t

instance (d : Document) : Decidable (UrlsReadBack d) :=
  inferInstanceAs (Decidable (∀ p ∈ urlPaths, ∀ t ∈ _, _))

theorem mem_urlPaths {p : Path} {webOnly : Bool} {presence : Presence} {initial : Value}
    (h : schema.below? p = some (.option (.url webOnly) presence initial)) : p ∈ urlPaths := by
  have hall : ∀ webOnly, ∀ o ∈ schema.options, o.kind = .url webOnly → o.path ∈ urlPaths := by
    decide
  exact hall webOnly _ (Schema.mem_options h) rfl

theorem table_layerData (hd : schema.Fits d) : .table (layerData d) = d.present := by
  obtain ⟨entries, rfl⟩ := Schema.Shaped.exists_table hd
  rfl

theorem ne_null_of_fits (hd : schema.Fits d) : d ≠ .null := by
  obtain ⟨entries, rfl⟩ := Schema.Shaped.exists_table hd
  exact nofun

/-- A document whose URLs are given back is read from its layer data. -/
theorem read_layerData (hd : schema.Fits d) (hurls : UrlsReadBack d) :
    read (.table (layerData d)) = .ok d := by
  rw [table_layerData hd]
  -- what fits is settled, since its URLs are given back
  refine schema_sound.read_present (schema_sound.settled_of_fits hd ?_) (ne_null_of_fits hd)
  intro p webOnly presence initial t hschema hfind
  rw [← table_layerData hd] at hfind
  exact hurls p (mem_urlPaths hschema) t (by simp [textAt?, hfind])

/-- The layer data holds what is always set. -/
theorem exists_find?_layerData (hd : schema.Fits d) {p : Path}
    (hp : schema.alwaysSet p = true) : ∃ v, (layerData d).find? p = some v := by
  have hfind := (schema_sound.find?_present_of_alwaysSet hd hp).2
  rwa [← table_layerData hd] at hfind

theorem alwaysSet_of_mandatory :
    ∀ option ∈ mandatoryOptions, schema.alwaysSet (Path.ofText option) = true := by decide

end Settings

/-- What is there stays there with one more layer below. -/
theorem Provider.contains_join {P : Provider} {p : Path} (h : P.contains p = true) (l : Layer) :
    (P.join l).contains p = true := by
  obtain ⟨v, hv⟩ := contains_eq_true_iff.1 h
  obtain ⟨w, hw, -⟩ := P.within_join l p v hv
  exact contains_eq_true_iff.2 ⟨w, hw⟩

namespace Settings

variable {d : Document}

/-- **The layer data is the document.**  Every reachable document whose URLs are given back is read
from its layer data, misses no mandatory option in a layer of it, and is described by this layer
with the defaults below it.  So no other reachable document has the same layer data. -/
theorem layerData_round_trip (hd : Reachable d) (hurls : UrlsReadBack d) (name : String) :
    read (.table (layerData d)) = .ok d ∧
    (checkMandatory ⟨[⟨name, layerData d⟩]⟩ mandatoryOptions).outcome = .ok () ∧
    (checkMandatory ((Provider.mk [⟨name, layerData d⟩]).join defaultsLayer)
      mandatoryOptions).outcome = .ok () ∧
    (extract ((Provider.mk [⟨name, layerData d⟩]).join defaultsLayer)).outcome = .ok d ∧
    ∀ e, Reachable e → layerData e = layerData d → e = d := by
  have hread := read_layerData hd.fits hurls
  have hfind : ∀ p, (Provider.mk [⟨name, layerData d⟩]).find? p = (layerData d).find? p :=
    fun p => by rw [Provider.find?, Provider.merged_single]
  have hthere : ∀ option ∈ mandatoryOptions,
      (Provider.mk [⟨name, layerData d⟩]).contains (Path.ofText option) = true := by
    intro option hmem
    rw [Provider.contains_eq_true_iff, hfind]
    exact exists_find?_layerData hd.fits (alwaysSet_of_mandatory option hmem)
  refine ⟨hread, ?_, ?_, ?_, ?_⟩
  · rw [outcome_checkMandatory, Provider.firstMissing?_eq_none_iff.2 hthere]
  · rw [outcome_checkMandatory, Provider.firstMissing?_eq_none_iff.2 fun option hmem =>
      Provider.contains_join (hthere option hmem) defaultsLayer]
  · -- the sender is there under its key, so the defaults mask nothing
    rw [outcome_extract_eq_ok_iff, read_join_defaults, Provider.merged_single]
    · exact hread
    · rintro ⟨hnone, -⟩
      obtain ⟨v, hv⟩ := exists_find?_layerData hd.fits (p := ["mail", "from"]) (by decide)
      rw [hfind, hv] at hnone
      cases hnone
  · -- both documents are read from one and the same layer data
    intro e he hsame
    have hread' := read_layerData he.fits (by rwa [UrlsReadBack, hsame])
    rw [hsame, hread] at hread'
    exact (Except.ok.inj hread').symm

/-- What a document is read from: a URL that is not in normal form, the sender under its field, a
number for a text, an empty path of a file, and an optional section without entries. -/
def sample : Value :=
  .table
    [("net", .table [("base_url", .text "HTTPS://Index.example.org:443"),
        ("tsl", .table [("ssl_key_path", .text "")])]),
      ("mail", .table [("from_", .text "me@example.org")]),
      ("website", .table [("name", .integer 7)]),
      ("registration", .table [])]

/-- Assignments to the document: a URL, and one that unsets what the document had set. -/
def sampleEdits : List (Path × Value) :=
  [(["tracker", "url"], .text "udp://tracker.example.org:6969"), (["net", "base_url"], .null)]

theorem layerData_round_trip_sample :
    ∃ d e, read sample = .ok d ∧ e = ((Handle.of d).write sampleEdits none).1.document ∧ e ≠ d ∧
      (Reachable d ∧ UrlsReadBack d ∧ read (.table (layerData d)) = .ok d) ∧
      Reachable e ∧ UrlsReadBack e ∧ read (.table (layerData e)) = .ok e ∧
      (extract ((Provider.mk [⟨"user", layerData e⟩]).join defaultsLayer)).outcome = .ok e := by
  obtain ⟨d, hd⟩ : ∃ d, read sample = .ok d := exists_eq_ok_of_isOk (by decide +kernel)
  -- what has to be computed about the document and the edited one, in one go
  have hfacts : ((read sample).map fun d =>
      let e := ((Handle.of d).write sampleEdits none).1.document
      decide (e ≠ d ∧ UrlsReadBack d ∧ UrlsReadBack e)) = .ok true := by decide +kernel
  rw [hd] at hfacts
  obtain ⟨hne, hurls, hurls'⟩ := of_decide_eq_true (Except.ok.inj hfacts)
  have hreach : Reachable d := .read hd
  have hreach' : Reachable ((Handle.of d).write sampleEdits none).1.document := .write hreach _ _
  have hedited := layerData_round_trip hreach' hurls' "user"
  exact ⟨d, _, hd, rfl, hne, ⟨hreach, hurls, (layerData_round_trip hreach hurls "user").1⟩, hreach',
    hurls', hedited.1, hedited.2.2.2.1⟩

end Settings

end LayeredSettings
