/-
LayeredSettings/Proofs/Overriding.lean

Overrides win.

The layer of overrides is the highest one, so what it holds at a path, unless it
is a table, is what the merged tree holds there, whatever the layers below hold at
the path, above it or below it (`Provider.find?_merge_of_not_table`).  By
`find?_collectOverrides` this is the value of the last variable whose path meets
it.

An option of text fills with a text and not with an array, and the only value of
an override that is neither an array nor a table is its text
(`overrideValue_cases`).  So an option of text reads character for character what
its variable says.  The two files of a certificate are apart, since the empty
text unsets them.

Main result: `resolve_override`.
-/
import LayeredSettings.Proofs.Assignment
import LayeredSettings.Proofs.Options
import LayeredSettings.Proofs.OverrideText
import LayeredSettings.Proofs.Origin
import LayeredSettings.Proofs.Precedence

namespace LayeredSettings

variable {files : Files} {source : Source} {environment : Environment} {P : Provider} {p : Path}
  {entry : String × String} {w : Value}

/-! ### The highest layer -/

/-- What the highest layer holds covers what the others hold, unless it is a table. -/
theorem Provider.find?_merge_of_not_table {l : Layer} (h : l.find? p = some w)
    (hw : w.isTable = false) : (P.merge l).find? p = some w := by
  rw [find?_merge, Layer.find?_eq_some_iff.1 h]
  exact Value.mergeOptional_of_not_table _ hw

/-- What the deciding variable stands for is in the merged tree, with the defaults below. -/
theorem find?_join_override (hP : (userProvider files source environment).outcome = .ok P)
    (hdecides : environment.Decides overridePrefix overrideSeparator p entry)
    (hvalue : overrideValue entry.2 = .ok w) (hw : w.isTable = false) :
    (P.join defaultsLayer).find? p = some w := by
  obtain ⟨document, overrides, -, hoverrides, rfl⟩ := userProvider_eq_ok_iff.1 hP
  have hholds : overrides.find? p = some w := find?_collectOverrides hoverrides hdecides hvalue
  have hlayers : (Provider.mk [document, overrides]).join defaultsLayer =
      (Provider.mk [defaultsLayer, document]).merge overrides := rfl
  rw [hlayers]
  exact Provider.find?_merge_of_not_table hholds hw

/-! ### Options of text -/

theorem Schema.readOption_required (kind : Kind) (v : Value) :
    Schema.readOption kind .required v =
      match kind.read v with
      | .ok u => .ok u
      | .error m => .error [⟨[], m⟩] := rfl

/-- An option of text that is filled with the value of an override reads its text. -/
theorem read_override {raw : String} {kind : Kind} {e : Value}
    (hvalue : overrideValue raw = .ok w) (hw : w.isTable = false)
    (hkind : kind = .text ∨ kind = .secret)
    (hread : Schema.readOption kind .required w = .ok e) : e = .text raw := by
  obtain ⟨overlong, htext⟩ : ∃ overlong, kind.read w = Kind.readText overlong w := by
    rcases hkind with rfl | rfl <;> exact ⟨_, rfl⟩
  rw [Schema.readOption_required, htext] at hread
  rcases overrideValue_cases hvalue with rfl | ⟨-, -, ⟨-, vs, rfl⟩ | ⟨-, t, rfl⟩⟩
  · exact (Except.ok.inj hread).symm
  · -- an array is no text
    cases hread
  · cases hw

/-- **Overrides win.**  Of the variables whose paths meet a path, let the last one in the order of
names be one that overrides this very path, with a text that stands for something that is no table.
Then this is what the tree with all layers holds at the path; and if an option of text other than
the files of a certificate is there, a resolution that succeeds has read the text of the
variable. -/
theorem resolve_override (hP : (userProvider files source environment).outcome = .ok P)
    (hdecides : environment.Decides overridePrefix overrideSeparator p entry)
    (hvalue : overrideValue entry.2 = .ok w) (hw : w.isTable = false) :
    (P.join defaultsLayer).find? p = some w ∧
    ∀ kind presence initial,
      Settings.schema.below? p = some (.option kind presence initial) →
      kind = .text ∨ kind = .secret → p ∉ Settings.certificatePaths →
      ∀ r, (resolve files source environment).outcome = .ok r →
        r.document.find? p = some (.text entry.2) := by
  have hfind := find?_join_override hP hdecides hvalue hw
  refine ⟨hfind, fun kind presence initial hschema hkind hp r hr => ?_⟩
  obtain ⟨hprovider, -, hread, -⟩ := resolve_eq_ok_iff.1 hr
  obtain rfl : P = r.provider := Except.ok.inj (hP.symm.trans hprovider)
  -- the document holds what the schema reads the text as, and a kept text is read as it is
  obtain ⟨e, he, hdocument⟩ := Schema.find?_read hread hschema hfind
  obtain rfl := Settings.required_of_text hschema hkind hp
  rw [Schema.read] at he
  rw [hdocument, read_override hvalue hw hkind he]

/-- The variable that decides a contested path; its text only looks like an array. -/
def lastContender : String × String :=
  ("TORRUST_INDEX_CONFIG_OVERRIDE_website__name", "[kept as it is")

/-- Variables that contend for one path: one above it, one for the same path in another case, one
below it, and the one that comes last. -/
def contested : Environment :=
  [("TORRUST_INDEX_CONFIG_OVERRIDE_WEBSITE", "above"),
    ("TORRUST_INDEX_CONFIG_OVERRIDE_WEBSITE__NAME", "in capitals"),
    ("TORRUST_INDEX_CONFIG_OVERRIDE_WEBSITE__NAME__X", "below"),
    lastContender]

/-- The layers of the user with the contested path. -/
def contestedProvider : Provider :=
  ⟨[leastLayer, ⟨overridesLayer, [("website", .table [("name", .text "[kept as it is")])]⟩]⟩

theorem userProvider_contested :
    (userProvider noFiles leastSource contested).outcome = .ok contestedProvider := by
  have hsorted : contested.sorted = contested := List.mergeSort_of_pairwise (by decide +kernel)
  refine userProvider_eq_ok_iff.2 ⟨leastLayer, _, by decide +kernel, ?_, rfl⟩
  rw [collectOverrides, hsorted]
  decide +kernel

theorem resolve_override_contested :
    ∃ r, (userProvider noFiles leastSource contested).outcome = .ok contestedProvider ∧
      contested.Decides overridePrefix overrideSeparator ["website", "name"] lastContender ∧
      overrideValue lastContender.2 = .ok (.text "[kept as it is") ∧
      (contestedProvider.join defaultsLayer).find? ["website", "name"]
        = some (.text "[kept as it is") ∧
      (resolve noFiles leastSource contested).outcome = .ok r ∧
      r.document.find? ["website", "name"] = some (.text "[kept as it is") := by
  have hP := userProvider_contested
  obtain ⟨r, hr⟩ : ∃ r, (resolve noFiles leastSource contested).outcome = .ok r := by
    rw [resolve, Run.bind_eq, Run.outcome_bind_of_ok hP]
    exact exists_eq_ok_of_isOk (by decide +kernel)
  -- the names are in order, so the last contender comes after all others
  have hbefore : ∀ e ∈ contested, e = lastContender ∨ e.1 < lastContender.1 := by decide +kernel
  have hdecides :
      contested.Decides overridePrefix overrideSeparator ["website", "name"] lastContender :=
    ⟨by decide +kernel, by decide +kernel, fun e he _ _ _ => hbefore e he⟩
  have hvalue : overrideValue lastContender.2 = .ok (.text "[kept as it is") := by decide +kernel
  obtain ⟨hfind, hdocument⟩ := resolve_override hP hdecides hvalue rfl
  exact ⟨r, hP, hdecides, hvalue, hfind, hr,
    hdocument .text .required (.text "Torrust") rfl (.inl rfl) (by decide) r hr⟩

end LayeredSettings
