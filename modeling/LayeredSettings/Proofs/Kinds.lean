/-
LayeredSettings/Proofs/Kinds.lean

What options make of values, read once more.

A kind leaves as it is what it has made of a value (`Kind.read_of_read`).  This
is plain for texts, numbers, booleans and choices.  A URL is kept as the text of
what was parsed; that parsing this text gives the URL back is an assumption
(`Url.ReadsBack`), and only that the scheme is still an allowed one is proved:
there is no colon in a scheme, so it can be read off the text
(`Url.takeWhile_chars`).

For an option that may be unset it matters in addition that nothing but the
empty text becomes the empty text (`Kind.eq_empty_of_read`), since that would
unset a file the second time.  Main result: `Schema.readOption_of_readOption`.
-/
import LayeredSettings.Schema
import LayeredSettings.Proofs.Reading
import Mathlib.Data.List.TakeWhile

namespace LayeredSettings

/-! ### The scheme of a URL -/

namespace Url

open Text

theorem lowerAscii_ne_colon {c : Char} (h : inScheme c = true) : lowerAscii c ≠ ':' := by
  intro hc
  rw [lowerAscii] at hc
  split at hc
  · rename_i hr
    have hcapitals : ∀ n < 0x5B, Char.ofNat (n + 0x20) = ':' → n < 0x41 := by decide
    have hlow := hcapitals c.toNat (by omega) hc
    omega
  · subst hc
    revert h
    decide

/-- There is no colon in a scheme. -/
theorem colon_notMem_of_scheme? {s scheme rest : List Char}
    (h : scheme? s = some (scheme, rest)) : ':' ∉ scheme := by
  rcases s with - | ⟨first, s⟩
  · cases h
  · simp only [scheme?] at h
    split at h
    · split at h
      · cases h
        intro hmem
        -- the scheme is what stands in front of the colon, in lower case, and no character becomes
        -- a colon
        obtain ⟨c, hc, hcolon⟩ := List.mem_map.1 hmem
        exact lowerAscii_ne_colon (List.mem_takeWhile_imp hc) hcolon
      · cases h
    · cases h

theorem scheme_behindSlashes? {s : List Char} {u : Url} (h : behindSlashes? s = some u) :
    u.scheme = "file".toList := by
  simp only [behindSlashes?] at h
  repeat' split at h
  all_goals first | cases h; rfl | cases h

theorem scheme_file? {s : List Char} {u : Url} (h : file? s = some u) :
    u.scheme = "file".toList := by
  simp only [file?] at h
  repeat' split at h
  · exact scheme_behindSlashes? h
  · cases h; rfl
  · cases h; rfl

theorem scheme_withAuthority? {scheme s : List Char} {u : Url}
    (h : withAuthority? scheme s = some u) : u.scheme = scheme := by
  simp only [withAuthority?] at h
  split at h
  · cases h
  · cases h
    rfl

theorem colon_notMem_of_parse? {s : String} {u : Url} (h : parse? s = some u) :
    ':' ∉ u.scheme := by
  simp only [parse?] at h
  split at h
  · cases h
  · rename_i scheme rest hscheme
    have hcolon := colon_notMem_of_scheme? hscheme
    split at h
    · rw [scheme_file? h]
      decide
    · -- with an authority the scheme is kept as it was cut off
      split at h
      · rwa [scheme_withAuthority? h]
      · split at h
        · rwa [scheme_withAuthority? h]
        · cases h
          exact hcolon

/-- The scheme of a URL can be read off its text. -/
theorem takeWhile_chars {s : String} {u : Url} (h : parse? s = some u) :
    u.text.toList.takeWhile (· != ':') = u.scheme := by
  have hall : ∀ c ∈ u.scheme, (c != ':') = true := by
    intro c hc
    have hne : c ≠ ':' := by
      rintro rfl
      exact colon_notMem_of_parse? h hc
    simpa using hne
  -- the text starts with the scheme, and a colon follows
  rw [text, String.toList_ofList, chars]
  simp only [List.append_assoc]
  rw [List.takeWhile_append_of_pos hall]
  simp

/-- A text is that of a URL which reading the text gives back. -/
def ReadsBack (t : String) : Prop := ∃ u, parse? t = some u ∧ u.text = t

instance (t : String) : Decidable (ReadsBack t) :=
  decidable_of_iff ((parse? t).map text = some t) (by simp [ReadsBack])

end Url

/-! ### Texts of numbers -/

theorem integerText_ne_empty (n : Int) : integerText n ≠ "" := by
  have hdigits : Nat.toDigits 10 n.natAbs ≠ [] := Nat.toDigits_ne_nil
  rw [integerText, Ne, String.ofList_eq_empty_iff]
  split
  · exact List.cons_ne_nil _ _
  · exact hdigits

namespace Binary64

theorem positional_ne_nil (ds : List Char) (k : Int) : positional ds k ≠ [] := by
  rw [positional]
  split <;> simp

theorem scientific_ne_nil (ds : List Char) (k : Int) : scientific ds k ≠ [] := by
  rw [scientific.eq_def]
  split <;> simp [exponentText]

theorem text_ne_empty (x : Binary64) : x.text ≠ "" := by
  rcases x with - | negative | ⟨negative, m, e⟩
  · decide
  · cases negative <;> decide
  · -- a finite number: its digits with a point, or in scientific notation
    rw [text, Ne, String.ofList_eq_empty_iff]
    split
    · exact List.cons_ne_nil _ _
    · split
      · simp
      · dsimp only
        split
        · exact positional_ne_nil _ _
        · exact scientific_ne_nil _ _

end Binary64

theorem Value.numeral?_ne_empty {v : Value} : v.numeral? ≠ some "" := by
  cases v with
  | integer n => simpa [numeral?] using fun _ => integerText_ne_empty n
  | float x => simpa [numeral?] using x.text_ne_empty
  | _ => simp [numeral?]

/-! ### What kinds make of values -/

namespace Kind

variable {kind : Kind} {v w : Value}

/-- Text comes out of a text, which stays as it is, or of a number. -/
theorem readText_eq_ok {overlong : Misfit} (h : readText overlong w = .ok v) :
    ∃ s, v = .text s ∧ (w = .text s ∨ w.numeral? = some s) := by
  simp only [readText] at h
  split at h
  · cases h
    exact ⟨_, rfl, .inl rfl⟩
  · split at h
    · rename_i s hs
      cases h
      exact ⟨s, rfl, .inr hs⟩
    · cases h

theorem readUrl_eq_ok {webOnly : Bool} (h : readUrl webOnly w = .ok v) :
    ∃ s u, w = .text s ∧ Url.parse? s = some u ∧ v = .text u.text ∧
      (webOnly && !(["http", "https"].contains (String.ofList u.scheme))) = false := by
  cases w with
  | text s =>
    simp only [readUrl] at h
    split at h
    · cases h
    · rename_i u hu
      split at h
      · cases h
      · -- the scheme is asked for only if the option wants an address of the web
        rename_i hscheme
        exact ⟨s, u, rfl, hu, (Except.ok.inj h).symm, Bool.eq_false_iff.2 hscheme⟩
  | _ => cases h

theorem readInteger_eq_ok {least : Int} {greatest : Option Int}
    (h : readInteger least greatest w = .ok v) :
    ∃ n : Int, v = .integer n ∧ readInteger least greatest (.integer n) = .ok (.integer n) := by
  simp only [readInteger] at h
  split at h
  · cases h
  · rename_i n hn
    split at h
    · cases h
    · rename_i hleast
      split at h
      · cases h
      · rename_i hgreatest
        -- the integer passed both bounds, and it will do so again
        refine ⟨n, (Except.ok.inj h).symm, ?_⟩
        simp only [readInteger, integerOf, if_neg hleast, if_neg hgreatest]

theorem flagOf_eq_ok {n : Int} (h : flagOf n = .ok v) : ∃ b, v = .boolean b := by
  simp only [flagOf] at h
  split at h
  · exact ⟨false, (Except.ok.inj h).symm⟩
  · split at h
    · exact ⟨true, (Except.ok.inj h).symm⟩
    · split at h <;> cases h

theorem readFlag_eq_ok (h : readFlag w = .ok v) : ∃ b, v = .boolean b := by
  cases w with
  | boolean b => exact ⟨b, (Except.ok.inj h).symm⟩
  | integer n => exact flagOf_eq_ok h
  -- a number counts as a flag if it is zero or one
  | float x =>
    simp only [readFlag] at h
    split at h
    · exact flagOf_eq_ok h
    · cases h
  | text s =>
    simp only [readFlag] at h
    split at h
    · exact ⟨true, (Except.ok.inj h).symm⟩
    · split at h
      · exact ⟨false, (Except.ok.inj h).symm⟩
      · cases h
  | _ => cases h

theorem readChoice_eq_ok {names : List String} (h : readChoice names w = .ok v) :
    ∃ s, w = .text s ∧ v = .text s := by
  cases w with
  | text s =>
    simp only [readChoice] at h
    split at h
    · exact ⟨s, rfl, (Except.ok.inj h).symm⟩
    · cases h
  | _ => cases h

/-- Every value of a URL in a document is the text of a URL. -/
def Rereads (kind : Kind) (v : Value) : Prop :=
  ∀ webOnly t, kind = .url webOnly → v = .text t → Url.ReadsBack t

/-- What a kind has made of a value it leaves as it is. -/
theorem read_of_read (h : kind.read w = .ok v) (hurl : kind.Rereads v) :
    kind.read v = .ok v := by
  cases kind with
  | text =>
    obtain ⟨s, rfl, -⟩ := readText_eq_ok h
    rfl
  | secret =>
    obtain ⟨s, rfl, -⟩ := readText_eq_ok h
    rfl
  | url webOnly =>
    obtain ⟨s, u, rfl, hu, rfl, hscheme⟩ := readUrl_eq_ok h
    obtain ⟨u', hu', htext⟩ := hurl webOnly _ rfl rfl
    -- nothing but the text of the second URL is known, and the scheme has to be allowed again
    have hsame : u'.scheme = u.scheme := by
      rw [← Url.takeWhile_chars hu', ← Url.takeWhile_chars hu, htext]
    simp only [read, readUrl, hu', hsame, hscheme, htext]
    rfl
  | integer least greatest =>
    obtain ⟨n, rfl, hn⟩ := readInteger_eq_ok h
    exact hn
  | flag =>
    obtain ⟨b, rfl⟩ := readFlag_eq_ok h
    rfl
  | choice title names =>
    obtain ⟨s, rfl, rfl⟩ := readChoice_eq_ok h
    exact h

/-- What comes out is a single value. -/
theorem plain_of_read (h : kind.read w = .ok v) :
    (∃ s, v = .text s) ∨ (∃ n, v = .integer n) ∨ ∃ b, v = .boolean b := by
  -- texts, secrets, URLs and choices become texts
  cases kind with
  | text =>
    obtain ⟨s, rfl, -⟩ := readText_eq_ok h
    exact .inl ⟨s, rfl⟩
  | secret =>
    obtain ⟨s, rfl, -⟩ := readText_eq_ok h
    exact .inl ⟨s, rfl⟩
  | url webOnly =>
    obtain ⟨s, u, rfl, hu, rfl, hscheme⟩ := readUrl_eq_ok h
    exact .inl ⟨_, rfl⟩
  | integer least greatest =>
    obtain ⟨n, rfl, hn⟩ := readInteger_eq_ok h
    exact .inr (.inl ⟨n, rfl⟩)
  | flag =>
    exact .inr (.inr (readFlag_eq_ok h))
  | choice title names =>
    obtain ⟨s, rfl, rfl⟩ := readChoice_eq_ok h
    exact .inl ⟨s, rfl⟩

/-- Only the empty text becomes the empty text. -/
theorem eq_empty_of_read (h : kind.read w = .ok (.text "")) : w = .text "" := by
  cases kind with
  | text =>
    obtain ⟨s, hs, rfl | hn⟩ := readText_eq_ok h
    · rw [hs]
    · cases hs
      exact absurd hn Value.numeral?_ne_empty
  | secret =>
    obtain ⟨s, hs, rfl | hn⟩ := readText_eq_ok h
    · rw [hs]
    · cases hs
      exact absurd hn Value.numeral?_ne_empty
  | url webOnly =>
    obtain ⟨s, u, rfl, hu, htext, hscheme⟩ := readUrl_eq_ok h
    -- the normal form of a URL has a scheme and a colon at least
    exfalso
    have hempty : u.text.toList = [] := by rw [← Value.text.inj htext]; rfl
    rw [Url.text, String.toList_ofList, Url.chars] at hempty
    simp at hempty
  | integer least greatest =>
    obtain ⟨n, hn, -⟩ := readInteger_eq_ok h
    cases hn
  | flag =>
    obtain ⟨b, hb⟩ := readFlag_eq_ok h
    cases hb
  | choice title names =>
    obtain ⟨s, rfl, hs⟩ := readChoice_eq_ok h
    rw [hs]

end Kind

namespace Schema

variable {kind : Kind} {presence : Presence} {v w : Value}

/-- The values that unset an option. -/
def unsets : Presence → Value → Bool
  | .required, _ => false
  | .optional, v => v = .null
  | .clearable, v => v = .null || v = .text ""

theorem readOption_eq_if (kind : Kind) (presence : Presence) (v : Value) :
    readOption kind presence v =
      if unsets presence v then .ok .null
      else match kind.read v with
        | .ok w => .ok w
        | .error m => .error [⟨[], m⟩] := by
  cases presence <;> rfl

theorem readOption_of_unsets (h : unsets presence w = true) :
    readOption kind presence w = .ok .null := by
  cases presence <;> simp_all [readOption, unsets]

theorem readOption_of_not_unsets (h : unsets presence w = false) :
    readOption kind presence w = .ok v ↔ kind.read w = .ok v := by
  rcases e : kind.read w with m | u <;> cases presence <;> simp_all [readOption, unsets]

/-- An option is unset where it may be, or its kind made something of the value. -/
theorem readOption_eq_ok (h : readOption kind presence w = .ok v) :
    (v = .null ∧ presence ≠ .required) ∨ (unsets presence w = false ∧ kind.read w = .ok v) := by
  rcases hw : unsets presence w with - | -
  · exact .inr ⟨rfl, (readOption_of_not_unsets hw).1 h⟩
  · rw [readOption_of_unsets hw] at h
    refine .inl ⟨(Except.ok.inj h).symm, ?_⟩
    rintro rfl
    cases hw

theorem readOption_null (h : presence ≠ .required) :
    readOption kind presence .null = .ok .null := by
  cases presence with
  | required => exact absurd rfl h
  | optional => rfl
  | clearable => rfl

/-- What a kind has made of a value that does not unset the option does not unset it either. -/
theorem unsets_of_read (hw : unsets presence w = false) (h : kind.read w = .ok v) :
    unsets presence v = false := by
  have hnull : v ≠ .null := by
    rcases Kind.plain_of_read h with ⟨s, rfl⟩ | ⟨n, rfl⟩ | ⟨b, rfl⟩ <;> exact nofun
  cases presence with
  | required => rfl
  | optional => simpa [unsets] using hnull
  | clearable =>
    -- only the empty text is read as the empty text, and that unsets the option at once
    have hempty : v ≠ .text "" := by
      rintro rfl
      obtain rfl := Kind.eq_empty_of_read h
      cases hw
    simp [unsets, hnull, hempty]

/-- What an option has made of a value it leaves as it is. -/
theorem readOption_of_readOption (h : readOption kind presence w = .ok v)
    (hurl : kind.Rereads v) : readOption kind presence v = .ok v := by
  rcases readOption_eq_ok h with ⟨rfl, hp⟩ | ⟨hw, hread⟩
  · exact readOption_null hp
  · exact (readOption_of_not_unsets (unsets_of_read hw hread)).2 (Kind.read_of_read hread hurl)

/-- What comes out is not set or a single value. -/
theorem isTable_of_readOption (h : readOption kind presence w = .ok v) : v.isTable = false := by
  rcases readOption_eq_ok h with ⟨rfl, -⟩ | ⟨-, hread⟩
  · rfl
  · rcases Kind.plain_of_read hread with ⟨s, rfl⟩ | ⟨n, rfl⟩ | ⟨b, rfl⟩ <;> rfl

/-- Only an option that may be unset is null. -/
theorem not_required_of_readOption_null (h : readOption kind presence w = .ok .null) :
    presence ≠ .required := by
  rcases readOption_eq_ok h with ⟨-, hp⟩ | ⟨-, hread⟩
  · exact hp
  · rcases Kind.plain_of_read hread with ⟨s, hs⟩ | ⟨n, hn⟩ | ⟨b, hb⟩ <;> contradiction

end Schema

end LayeredSettings
