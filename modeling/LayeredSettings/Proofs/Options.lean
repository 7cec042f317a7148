/-
LayeredSettings/Proofs/Options.lean

The options of a schema, each with its path of keys, listed in the order of the
schema (`Schema.options`).  Every option that a path of keys leads to is in the
list (`Schema.mem_options`), so what is to hold of all options can be decided.
-/
import LayeredSettings.Settings
import LayeredSettings.Proofs.Reading

namespace LayeredSettings

namespace Schema

/-- An option of a schema: where it is, what it holds, and whether it may be unset. -/
structure Listed where
  path : Path
  kind : Kind
  presence : Presence
  deriving DecidableEq

/-- The option seen from the section above. -/
def Listed.under (key : String) (o : Listed) : Listed := { o with path := key :: o.path }

mutual

/-- All options of a schema. -/
def options : Schema → List Listed
  | .option kind presence _ => [⟨[], kind, presence⟩]
  | .group _ _ members => memberOptions members

/-- All options of the members of a section. -/
def memberOptions : List (Name × Schema) → List Listed
  | [] => []
  | (name, s) :: rest => (options s).map (Listed.under name.key) ++ memberOptions rest

end

theorem mem_memberOptions {members : List (Name × Schema)} {name : Name} {s : Schema} {o : Listed}
    (hm : (name, s) ∈ members) (ho : o ∈ s.options) : o.under name.key ∈ memberOptions members := by
  induction members with
  | nil => cases hm
  | cons m rest ih =>
      rcases m with ⟨n, r⟩
      rw [memberOptions, List.mem_append]
      rcases List.mem_cons.1 hm with heq | hrest
      · obtain ⟨rfl, rfl⟩ := Prod.mk.inj heq
        exact .inl (List.mem_map_of_mem ho)
      · exact .inr (ih hrest)

/-- The option at the end of a path is in the list. -/
theorem mem_options {s : Schema} {p : Path} {kind : Kind} {presence : Presence} {initial : Value}
    (h : s.below? p = some (.option kind presence initial)) :
    ⟨p, kind, presence⟩ ∈ s.options := by
  induction p generalizing s with
  | nil =>
      obtain rfl := Option.some.inj h
      exact List.mem_singleton.2 rfl
  | cons key rest ih =>
      rcases s with ⟨kind', presence', initial'⟩ | ⟨title, optional, members⟩
      · simp [below?] at h
      · rcases hm : members.find? fun m => m.1.key == key with - | ⟨name, member⟩
        · simp [below?, hm] at h
        · have hkey : name.key = key := by simpa using List.find?_some hm
          have hrest := ih (by simpa [below?, hm] using h)
          -- the options below the member are listed with its key in front
          have hmem := mem_memberOptions (List.mem_of_find?_eq_some hm) hrest
          rwa [hkey] at hmem

end Schema

namespace Settings

/-- The paths of the two files of a certificate; the empty text unsets them. -/
def certificatePaths : List Path :=
  [["net", "tsl", "ssl_cert_path"], ["net", "tsl", "ssl_key_path"]]

/-- The options of text are always set, the two files of a certificate apart. -/
theorem required_of_text {p : Path} {kind : Kind} {presence : Presence} {initial : Value}
    (h : schema.below? p = some (.option kind presence initial))
    (hkind : kind = .text ∨ kind = .secret) (hp : p ∉ certificatePaths) :
    presence = .required := by
  have hall : ∀ o ∈ schema.options, o.kind = .text ∨ o.kind = .secret →
      o.path ∉ certificatePaths → o.presence = .required := by
    decide
  exact hall _ (Schema.mem_options h) hkind hp

end Settings

end LayeredSettings
