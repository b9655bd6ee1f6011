import Codemod.Proofs.Project.Loading

/-!
# Checks on a configuration

`Config.validate` asks of an extension that it is not empty and does not begin with a dot. Loading a
project compares extensions with what follows the last dot of a name. Both agree on extensions
without a dot. One with a dot inside passes the check all the same, and then the files that are
named with it are found only if the part after its last dot is an extension of its own.

Results:
* `validate_eq_ok_iff`, `config_of_validate`: what passes, and what the answer is otherwise.
* `nameExtension_stem_iff`: what the extension of a name is that ends with a dot and a text.
* `own_files_found_iff`: when the files of an extension are found.
-/
namespace Codemod

namespace Config

/-! ## What passes -/

theorem startsWith_dot_iff (s : String) :
    s.startsWith "." = true ↔ ∃ rest, s.toList = '.' :: rest := by
  have hstart : s.startsWith "." = true ↔ (".": String).toList <+: s.toSlice.copy.toList :=
    String.Slice.startsWith_string_iff
  rw [hstart, String.copy_toSlice]
  exact ⟨fun ⟨rest, h⟩ => ⟨rest, h.symm⟩, fun ⟨rest, h⟩ => ⟨rest, h.symm⟩⟩

theorem isBareExtension_iff (extension : String) :
    isBareExtension extension = true ↔
      extension ≠ "" ∧ ∀ rest, extension.toList ≠ '.' :: rest := by
  rw [isBareExtension, Bool.and_eq_true, bne_iff_ne, Bool.not_eq_true', ← Bool.not_eq_true,
    startsWith_dot_iff, not_exists]

/-- A configuration passes with a known level and at least one extension, of which none is empty or
begins with a dot. -/
theorem validate_eq_ok_iff (c : Config) :
    c.validate = .ok () ↔
      c.logging.level ∈ levels ∧ c.project.extensions ≠ [] ∧
        ∀ e ∈ c.project.extensions, e ≠ "" ∧ ∀ rest, e.toList ≠ '.' :: rest := by
  simp only [← isBareExtension_iff]
  by_cases hlevel : c.logging.level ∈ levels
  · by_cases hempty : c.project.extensions = []
    · simp [validate, hlevel, hempty]
    · cases hfind : c.project.extensions.find? (!isBareExtension ·) with
      | none =>
        have hbare : ∀ e ∈ c.project.extensions, isBareExtension e = true := by
          simpa using List.find?_eq_none.1 hfind
        simpa [validate, hlevel, hempty, hfind] using hbare
      | some e =>
        have hmem : e ∈ c.project.extensions := List.mem_of_find?_eq_some hfind
        have hdotted : isBareExtension e = false := by simpa using List.find?_some hfind
        simpa [validate, hlevel, hempty, hfind] using ⟨e, hmem, hdotted⟩
  · simp [validate, hlevel]

/-- What does not pass is complained about as a configuration. -/
theorem config_of_validate {c : Config} {e : Error} (h : c.validate = .error e) :
    ∃ detail, e = .config detail := by
  unfold validate at h
  split at h
  · cases h
    exact ⟨_, rfl⟩
  · split at h
    · cases h
      exact ⟨_, rfl⟩
    · split at h
      · cases h
        exact ⟨_, rfl⟩
      · cases h

end Config

namespace Project

/-! ## Files of an extension -/

/-- The extension of a name with a stem, a dot and a text is what follows the last dot of the text,
or all of it. -/
theorem nameExtension_stem_iff {stem text extension : String} (hstem : stem ≠ "") :
    Path.nameExtension (stem ++ "." ++ text) = some extension ↔
      '.' ∉ extension.toList ∧
        (text = extension ∨ ∃ first, text = first ++ "." ++ extension) := by
  rw [Path.nameExtension_eq_some_iff]
  constructor
  · rintro ⟨before, -, he, hplain⟩
    refine ⟨hplain, ?_⟩
    have hlists : stem.toList ++ '.' :: text.toList = before.toList ++ '.' :: extension.toList := by
      simpa using congrArg String.toList he
    obtain ⟨mid, -, hmid⟩ | ⟨mid, -, hmid⟩ := List.append_eq_append_iff.1 hlists
    · cases mid with
      | nil => exact .inl (String.toList_inj.1 (List.cons.inj hmid).2)
      | cons c first =>
        refine .inr ⟨String.ofList first, String.toList_inj.1 ?_⟩
        simpa using (List.cons.inj hmid).2
    · -- the text would begin before the last dot
      cases mid with
      | nil => exact .inl (String.toList_inj.1 (List.cons.inj hmid).2.symm)
      | cons c first =>
        have hdot : '.' ∈ extension.toList := by simp [(List.cons.inj hmid).2]
        exact absurd hdot hplain
  · rintro ⟨hplain, rfl | ⟨first, rfl⟩⟩
    · exact ⟨stem, hstem, rfl, hplain⟩
    · exact ⟨stem ++ "." ++ first, by simp, by simp [String.append_assoc], hplain⟩

/-- In a configuration that passes, the files named with one of the extensions are found exactly
when the extension has no dot inside, or has one and ends with another extension that has none. -/
theorem own_files_found_iff {c : Config} (hvalid : c.validate = .ok ()) {e : String}
    (he : e ∈ c.project.extensions) (hslash : '/' ∉ e.toList) (dir : Path) :
    hasExtension (dir.child ("x." ++ e)) c.project.extensions = true ↔
      '.' ∉ e.toList ∨ ∃ first last, first ≠ "" ∧ last ∈ c.project.extensions ∧
        '.' ∉ last.toList ∧ e = first ++ "." ++ last := by
  obtain ⟨-, -, hbare⟩ := (Config.validate_eq_ok_iff c).1 hvalid
  have hne : ∀ s : String, 'x' :: '.' :: e.toList ≠ s.toList → "x." ++ e ≠ s := by
    rintro s hs rfl
    exact hs (by simp)
  have hname : Path.IsName ("x." ++ e) :=
    ⟨by simpa using hslash, hne _ (by simp), hne _ (by simp), hne _ (by simp)⟩
  have hown : ∀ last, Path.nameExtension ("x." ++ e) = some last ↔
      '.' ∉ last.toList ∧ (e = last ∨ ∃ first, e = first ++ "." ++ last) := by
    intro last
    exact @nameExtension_stem_iff "x" e last (by decide)
  rw [hasExtension_iff, Path.extension_child dir hname]
  simp only [hown]
  constructor
  · rintro ⟨last, hlast, hplain, rfl | ⟨first, hfirst⟩⟩
    · exact .inl hplain
    · refine .inr ⟨first, last, ?_, hlast, hplain, hfirst⟩
      rintro rfl
      exact (hbare e he).2 last.toList (by simp [hfirst])
  · rintro (hplain | ⟨first, last, -, hlast, hplain, rfl⟩)
    · exact ⟨e, he, hplain, .inl rfl⟩
    · exact ⟨last, hlast, hplain, .inr ⟨first, rfl⟩⟩

/-- The default settings with other extensions. -/
def withExtensions (extensions : List String) : Config :=
  { Config.default with project := ⟨extensions, ProjectConfig.default.exclude⟩ }

theorem validate_withExtensions {extensions : List String} (hsome : extensions ≠ [])
    (hbare : ∀ e ∈ extensions, e ≠ "" ∧ ∀ rest, e.toList ≠ '.' :: rest) :
    (withExtensions extensions).validate = .ok () :=
  (Config.validate_eq_ok_iff _).2 ⟨show "warn" ∈ Config.levels by decide, hsome, hbare⟩

theorem own_files_found_types :
    (withExtensions ["ts", "d.ts"]).validate = .ok () ∧
      hasExtension (Path.child ⟨"src"⟩ ("x." ++ "d.ts")) ["ts", "d.ts"] = true := by
  have hvalid : (withExtensions ["ts", "d.ts"]).validate = .ok () :=
    validate_withExtensions (by decide) (by simp)
  refine ⟨hvalid, (own_files_found_iff hvalid (by decide) (by decide) ⟨"src"⟩).2 ?_⟩
  exact .inr ⟨"d", "ts", by decide, by decide, by decide, rfl⟩

/-- An extension with a dot inside passes, and its files are not found. -/
theorem own_files_lost :
    (withExtensions ["component.ts"]).validate = .ok () ∧
      "component.ts" ∈ (withExtensions ["component.ts"]).project.extensions ∧
      '/' ∉ "component.ts".toList ∧
      hasExtension (Path.child ⟨""⟩ ("x." ++ "component.ts"))
        (withExtensions ["component.ts"]).project.extensions = false :=
  ⟨validate_withExtensions (by decide) (by simp), by decide, by decide, by decide⟩

end Project

end Codemod
